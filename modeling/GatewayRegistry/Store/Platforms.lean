import GatewayRegistry.Store.Database

/-!
# Platforms and assets in the store

A platform has at most one protocol of each name, and so has an asset. Protocols are inserted in
bulk: a row whose platform or asset already has a protocol of that name is passed over, though the
number for it is given out, and a row for an unknown platform or asset fails the whole insertion.
-/

namespace GatewayRegistry

/-! ### Statements -/

namespace Store

def insertPlatform (name type : String) (s : Store) : Except StoreError (Int × Store) :=
  if s.platforms.rows.any (·.name == name) then .error (.rejected (.duplicate .platformName))
  else .ok (s.platforms.nextId, { s with platforms := s.platforms.insert fun id => ⟨id, name, type⟩ })

/-- Whether a platform has a protocol of some name. -/
def platformOffers (s : Store) (platformId : Int) (name : String) : Bool :=
  s.platformProtocols.rows.any fun p => p.platformId == platformId && p.name == name

/-- Whether an asset has a protocol of some name. -/
def assetOffers (s : Store) (assetId name : String) : Bool :=
  s.assetProtocols.rows.any fun p => p.assetId == assetId && p.name == name

/-- Insert a protocol of a platform, and say how many rows that added. -/
def insertPlatformProtocol (new : NewPlatformProtocol) (s : Store) :
    Except StoreError (Nat × Store) :=
  if s.platformOffers new.platformId new.name then
    .ok (0, { s with platformProtocols := s.platformProtocols.skip })
  else if !s.hasPlatform new.platformId then .error (.rejected .dangling)
  else
    let row (id : Int) : PlatformProtocol := {
      id := id
      platformId := new.platformId
      name := new.name
      port := new.port
      isPrimary := new.isPrimary
      isRequired := new.isRequired
      isDefault := new.isDefault
      isPublic := new.isPublic
      setting := new.setting }
    .ok (1, { s with platformProtocols := s.platformProtocols.insert row })

/-- Insert a protocol of an asset, and say how many rows that added. -/
def insertAssetProtocol (new : NewAssetProtocol) (s : Store) : Except StoreError (Nat × Store) :=
  if s.assetOffers new.assetId new.name then
    .ok (0, { s with assetProtocols := s.assetProtocols.skip })
  else if !s.hasAsset new.assetId then .error (.rejected .dangling)
  else
    let row (id : Int) : AssetProtocol := ⟨id, new.assetId, new.name, new.port⟩
    .ok (1, { s with assetProtocols := s.assetProtocols.insert row })

/-- Insert rows one after the other, and say how many were added. -/
def insertMany (insert : α → Store → Except StoreError (Nat × Store)) (rows : List α) (s : Store) :
    Except StoreError (Nat × Store) :=
  rows.foldlM (fun (added, s) row => do
    let (n, s) ← insert row s
    return (added + n, s)) (0, s)

def insertAsset (a : Asset) (s : Store) : Except StoreError Store :=
  if s.hasAsset a.id then .error (.rejected (.duplicate .assetId))
  else if !s.hasPlatform a.platformId then .error (.rejected .dangling)
  else .ok { s with assets := s.assets ++ [a] }

end Store

/-! ### Calls -/

namespace Database

def createPlatform (name type : String) : Call Platform := do
  let id ← transact (Store.insertPlatform name type)
  query fun s => match s.platforms.rows.find? (·.id == id) with
    | some p => .ok p
    | none => .error (.query .noRow)

/-- Insert protocols of platforms, and say how many rows were added. -/
def insertPlatformProtocols (rows : List NewPlatformProtocol) : Call Nat :=
  transact (Store.insertMany Store.insertPlatformProtocol rows)

/-- The protocols of a platform, in the order of their numbers. -/
def platformProtocols (platformId : Int) : Call (List PlatformProtocol) :=
  query fun s => .ok (s.platformProtocols.rows.filter (·.platformId == platformId))

def createAsset (id name : String) (platformId : Int) : Call Unit :=
  execute (Store.insertAsset ⟨id, name, platformId⟩)

/-- Insert protocols of assets, and say how many rows were added. -/
def insertAssetProtocols (rows : List NewAssetProtocol) : Call Nat :=
  transact (Store.insertMany Store.insertAssetProtocol rows)

/-- Insert a protocol of an asset; false if the asset already has one of that name. -/
def addAssetProtocol (assetId name : String) (port : Int64) : Call Bool := do
  return 0 < (← insertAssetProtocols [⟨assetId, name, port⟩])

/-- The protocols of an asset, ordered by name. -/
def assetProtocols (assetId : String) : Call (List AssetProtocol) :=
  query fun s =>
    .ok ((s.assetProtocols.rows.filter (·.assetId == assetId)).mergeSort fun a b =>
      decide (a.name ≤ b.name))

end Database
end GatewayRegistry
