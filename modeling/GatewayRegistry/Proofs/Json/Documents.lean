import GatewayRegistry.Config.Basic
import GatewayRegistry.Domain
import GatewayRegistry.Platform
import GatewayRegistry.Proofs.Json.ReadBack
import GatewayRegistry.Proofs.Store.Consistency
import GatewayRegistry.StorageBackend
import GatewayRegistry.Terminal.Basic
import GatewayRegistry.Terminal.Status

/-!
# Documents

`Document` names the types whose values are written and read as documents. A value that can be
written is read back from what is written for it (`Document.decode_encode`). What has been read can
be written (`Document.fits_of_decode`), and so every form in which a document is accepted has a
normal form, which is accepted as the same value and is its own normal form
(`Document.round_trip`).
-/

namespace GatewayRegistry

open Decode Decode.Fields

/-! ## Names -/

@[simp] theorem ProtocolName.decode_encode (name : ProtocolName) : decode name.encode = .ok name :=
  variant_str name.ofText?_toText

@[simp] theorem TerminalType.decode_encode (type : TerminalType) : decode type.encode = .ok type :=
  variant_str type.ofText?_toText

@[simp] theorem StatusLabel.decode_encode (label : StatusLabel) : decode label.encode = .ok label :=
  variant_str (by cases label <;> decide)

/-! ## Records of the store

A record is read back if each of its fields is. What is left to show after that is done by the
`@[simp]` lemmas on single values: under the name of the field stands what its decoder reads back.
-/

theorem Terminal.decode_encode (t : Terminal) : decode t.encode = .ok t := by
  rw [decode, encode, record_eq_ok_iff (by simp [Members.keys])]
  simp only [ofMembers_seq_iff, ofMembers_pure_iff]
  simp [Members.get?]

theorem Protocol.decode_encode {p : Protocol} (h : FitsSigned64 p.id) :
    decode p.encode = .ok p := by
  rw [decode, encode, record_eq_ok_iff (by simp [Members.keys])]
  simp only [ofMembers_seq_iff, ofMembers_pure_iff]
  simp [Members.get?, signed64_eq_ok_iff, h]

theorem ProtocolEntry.decode_encode (e : ProtocolEntry) : decode e.encode = .ok e := by
  rw [decode, encode, record_eq_ok_iff (by simp [Members.keys])]
  simp only [ofMembers_seq_iff, ofMembers_pure_iff]
  simp [Members.get?]

theorem Account.decode_encode (a : Account) : decode a.encode = .ok a := by
  rw [decode, encode, record_eq_ok_iff (by simp [Members.keys])]
  simp only [ofMembers_seq_iff, ofMembers_pure_iff]
  simp [Members.get?]

theorem Session.decode_encode (s : Session) : decode s.encode = .ok s := by
  rw [decode, encode, record_eq_ok_iff (by simp [Members.keys])]
  simp only [ofMembers_seq_iff, ofMembers_pure_iff]
  simp [Members.get?]

theorem Domain.decode_encode (d : Domain) : decode d.encode = .ok d := by
  rw [decode, encode, record_eq_ok_iff (by simp [Members.keys])]
  simp only [ofMembers_seq_iff, ofMembers_pure_iff]
  simp [Members.get?]

theorem StorageBackend.decode_encode (b : StorageBackend) : decode b.encode = .ok b := by
  rw [decode, encode, record_eq_ok_iff (by simp [Members.keys])]
  simp only [ofMembers_seq_iff, ofMembers_pure_iff]
  simp [Members.get?]

theorem Platform.decode_encode {p : Platform} (h : FitsSigned64 p.id) :
    decode p.encode = .ok p := by
  rw [decode, encode, record_eq_ok_iff (by simp [Members.keys])]
  simp only [ofMembers_seq_iff, ofMembers_pure_iff]
  simp [Members.get?, signed64_eq_ok_iff, h]

theorem PlatformProtocol.decode_encode {p : PlatformProtocol} (h : FitsSigned64 p.id)
    (hplatform : FitsSigned64 p.platformId) : decode p.encode = .ok p := by
  rw [decode, encode, record_eq_ok_iff (by simp [Members.keys])]
  simp only [ofMembers_seq_iff, ofMembers_pure_iff]
  simp [Members.get?, signed64_eq_ok_iff, h, hplatform]

theorem AssetProtocol.decode_encode {p : AssetProtocol} (h : FitsSigned64 p.id) :
    decode p.encode = .ok p := by
  rw [decode, encode, record_eq_ok_iff (by simp [Members.keys])]
  simp only [ofMembers_seq_iff, ofMembers_pure_iff]
  simp [Members.get?, signed64_eq_ok_iff, h]

/-! ## The configuration -/

@[simp] theorem DatabaseConfig.decode_encode (c : DatabaseConfig) : decode c.encode = .ok c := by
  rw [decode, encode, record_eq_ok_iff (by simp [Members.keys])]
  simp only [ofMembers_seq_iff, ofMembers_pure_iff]
  simp [Members.get?]

@[simp] theorem LivenessConfig.decode_encode (c : LivenessConfig) : decode c.encode = .ok c := by
  rw [decode, encode, record_eq_ok_iff (by simp [Members.keys])]
  simp only [ofMembers_seq_iff, ofMembers_pure_iff]
  simp [Members.get?]

@[simp] theorem TerminalSettings.decode_encode (c : TerminalSettings) :
    decode c.encode = .ok c := by
  rw [decode, encode, record_eq_ok_iff (by simp [Members.keys])]
  simp only [ofMembers_seq_iff, ofMembers_pure_iff]
  simp [Members.get?]

@[simp] theorem SecuritySettings.decode_encode (c : SecuritySettings) :
    decode c.encode = .ok c := by
  rw [decode, encode, record_eq_ok_iff (by simp [Members.keys])]
  simp only [ofMembers_seq_iff, ofMembers_pure_iff]
  simp [Members.get?]

@[simp] theorem StorageDefaults.decode_encode (c : StorageDefaults) : decode c.encode = .ok c := by
  rw [decode, encode, record_eq_ok_iff (by simp [Members.keys])]
  simp only [ofMembers_seq_iff, ofMembers_pure_iff]
  simp [Members.get?]

theorem Config.decode_encode (c : Config) : decode c.encode = .ok c := by
  rw [decode, encode, record_eq_ok_iff (by simp [Members.keys])]
  simp only [ofMembers_seq_iff, ofMembers_pure_iff]
  simp [Members.get?]

/-! ## Numbers that have been read

The fields after the last such number may be anything. -/

section

variable {v : Json}

theorem Protocol.fits_of_decode {p : Protocol} (h : decode v = .ok p) : FitsSigned64 p.id := by
  refine of_record_eq_ok (fun p => FitsSigned64 p.id) ?_ h
  refine .init (.init (.init (.seq (.pure ?_) .signed64)))
  intro id hid name port builtin
  exact hid

theorem Platform.fits_of_decode {p : Platform} (h : decode v = .ok p) : FitsSigned64 p.id := by
  refine of_record_eq_ok (fun p => FitsSigned64 p.id) ?_ h
  refine .init (.init (.seq (.pure ?_) .signed64))
  intro id hid name type
  exact hid

theorem PlatformProtocol.fits_of_decode {p : PlatformProtocol} (h : decode v = .ok p) :
    FitsSigned64 p.id ∧ FitsSigned64 p.platformId := by
  refine of_record_eq_ok (fun p => FitsSigned64 p.id ∧ FitsSigned64 p.platformId) ?_ h
  refine .init (.init (.init (.init (.init (.init (.init ?_))))))
  refine .seq (.seq (.pure ?_) .signed64) .signed64
  intro id hid platformId hplatform name port isPrimary isRequired isDefault isPublic setting
  exact ⟨hid, hplatform⟩

theorem AssetProtocol.fits_of_decode {p : AssetProtocol} (h : decode v = .ok p) :
    FitsSigned64 p.id := by
  refine of_record_eq_ok (fun p => FitsSigned64 p.id) ?_ h
  refine .init (.init (.init (.seq (.pure ?_) .signed64)))
  intro id hid assetId name port
  exact hid

end

/-! ## Documents -/

/-- A type whose values are documents. -/
inductive Document : Type → Type where
  | terminal : Document Terminal
  | protocol : Document Protocol
  | account : Document Account
  | session : Document Session
  | domain : Document Domain
  | storageBackend : Document StorageBackend
  | platform : Document Platform
  | platformProtocol : Document PlatformProtocol
  | assetProtocol : Document AssetProtocol
  | protocolEntry : Document ProtocolEntry
  | protocolName : Document ProtocolName
  | terminalType : Document TerminalType
  | statusLabel : Document StatusLabel
  | config : Document Config

namespace Document

variable {α : Type}

def encode : Document α → α → Json
  | .terminal => Terminal.encode
  | .protocol => Protocol.encode
  | .account => Account.encode
  | .session => Session.encode
  | .domain => Domain.encode
  | .storageBackend => StorageBackend.encode
  | .platform => Platform.encode
  | .platformProtocol => PlatformProtocol.encode
  | .assetProtocol => AssetProtocol.encode
  | .protocolEntry => ProtocolEntry.encode
  | .protocolName => ProtocolName.encode
  | .terminalType => TerminalType.encode
  | .statusLabel => StatusLabel.encode
  | .config => Config.encode

def decode : Document α → Decoder α
  | .terminal => Terminal.decode
  | .protocol => Protocol.decode
  | .account => Account.decode
  | .session => Session.decode
  | .domain => Domain.decode
  | .storageBackend => StorageBackend.decode
  | .platform => Platform.decode
  | .platformProtocol => PlatformProtocol.decode
  | .assetProtocol => AssetProtocol.decode
  | .protocolEntry => ProtocolEntry.decode
  | .protocolName => ProtocolName.decode
  | .terminalType => TerminalType.decode
  | .statusLabel => StatusLabel.decode
  | .config => Config.decode

/-- The numbers that the store assigns, which have no bound of their own, are of 64 bits with a
sign. All other numbers are of a bounded type. -/
def Fits : Document α → α → Prop
  | .protocol, p => FitsSigned64 p.id
  | .platform, p => FitsSigned64 p.id
  | .platformProtocol, p => FitsSigned64 p.id ∧ FitsSigned64 p.platformId
  | .assetProtocol, p => FitsSigned64 p.id
  | _, _ => True

/-- What is read from a value, written again. -/
def normalize (document : Document α) (v : Json) : Except DecodeError Json :=
  (document.decode v).map document.encode

/-- What is written for a value is read as that value. -/
theorem decode_encode (document : Document α) {a : α} (h : document.Fits a) :
    document.decode (document.encode a) = .ok a := by
  cases document with
  | terminal => exact a.decode_encode
  | protocol => exact Protocol.decode_encode h
  | account => exact a.decode_encode
  | session => exact a.decode_encode
  | domain => exact a.decode_encode
  | storageBackend => exact a.decode_encode
  | platform => exact Platform.decode_encode h
  | platformProtocol => exact PlatformProtocol.decode_encode h.1 h.2
  | assetProtocol => exact AssetProtocol.decode_encode h
  | protocolEntry => exact a.decode_encode
  | protocolName => exact a.decode_encode
  | terminalType => exact a.decode_encode
  | statusLabel => exact a.decode_encode
  | config => exact a.decode_encode

/-- Whatever has been read can be written, since numbers are read within their bounds. -/
theorem fits_of_decode (document : Document α) {v : Json} {a : α} (h : document.decode v = .ok a) :
    document.Fits a := by
  cases document with
  | protocol => exact Protocol.fits_of_decode h
  | platform => exact Platform.fits_of_decode h
  | platformProtocol => exact PlatformProtocol.fits_of_decode h
  | assetProtocol => exact AssetProtocol.fits_of_decode h
  | _ => trivial

/-- Every value is read back from what is written for it. So whatever form a value is read from,
writing it again gives a form from which the same value is read, and which is written again as it
is. -/
theorem round_trip (document : Document α) :
    (∀ a, document.Fits a → document.decode (document.encode a) = .ok a) ∧
    ∀ v a, document.decode v = .ok a →
      document.Fits a ∧
      ∃ w, document.normalize v = .ok w ∧ document.decode w = .ok a ∧
        document.normalize w = .ok w := by
  constructor
  · intro a h
    exact document.decode_encode h
  · intro v a h
    have hfits : document.Fits a := document.fits_of_decode h
    have hread : document.decode (document.encode a) = .ok a := document.decode_encode hfits
    -- the normal form is what is written for the value
    refine ⟨hfits, document.encode a, ?_, hread, ?_⟩
    · rw [normalize, h]
      rfl
    · rw [normalize, hread]
      rfl

/-- A platform is written and read back. A request for a protocol is read from an array without its
last item, a configuration from an object with one of its fields and an unknown member, and a name
from an object whose only value is null. -/
theorem round_trip_of_other_forms :
    (platform.Fits ⟨1, "Linux", "linux"⟩ ∧
      platform.decode (platform.encode ⟨1, "Linux", "linux"⟩) = .ok ⟨1, "Linux", "linux"⟩) ∧
    (protocolEntry.decode (.arr [.str "ssh", .int 22]) = .ok ⟨some "ssh", some 22, true⟩ ∧
      ∃ w, protocolEntry.normalize (.arr [.str "ssh", .int 22]) = .ok w ∧
        protocolEntry.decode w = .ok ⟨some "ssh", some 22, true⟩ ∧
        protocolEntry.normalize w = .ok w) ∧
    (config.decode (.obj [("color", .null), ("login_title", .str "Gate")]) =
        .ok { loginTitle := "Gate" } ∧
      ∃ w, config.normalize (.obj [("color", .null), ("login_title", .str "Gate")]) = .ok w ∧
        config.decode w = .ok { loginTitle := "Gate" } ∧ config.normalize w = .ok w) ∧
    protocolName.decode (.obj [("k8s", .null)]) = .ok .k8s ∧
    ∃ w, protocolName.normalize (.obj [("k8s", .null)]) = .ok w ∧
      protocolName.decode w = .ok .k8s ∧ protocolName.normalize w = .ok w := by
  have hfits : platform.Fits ⟨1, "Linux", "linux"⟩ := by
    show FitsSigned64 1
    decide
  have hentry : protocolEntry.decode (.arr [.str "ssh", .int 22]) =
      .ok ⟨some "ssh", some 22, true⟩ := rfl
  have hconfig : config.decode (.obj [("color", .null), ("login_title", .str "Gate")]) =
      .ok { loginTitle := "Gate" } := rfl
  have hname : protocolName.decode (.obj [("k8s", .null)]) = .ok .k8s := rfl
  refine ⟨⟨hfits, platform.round_trip.1 _ hfits⟩, ⟨hentry, ?_⟩, ⟨hconfig, ?_⟩, hname, ?_⟩
  · exact (protocolEntry.round_trip.2 _ _ hentry).2
  · exact (config.round_trip.2 _ _ hconfig).2
  · exact (protocolName.round_trip.2 _ _ hname).2

example : protocolEntry.normalize (.arr [.str "ssh", .int 22]) =
    .ok (.obj [("builtin", .bool true), ("name", .str "ssh"), ("port", .int 22)]) := rfl

example : protocolName.normalize (.obj [("k8s", .null)]) = .ok (.str "k8s") := rfl

end Document
end GatewayRegistry
