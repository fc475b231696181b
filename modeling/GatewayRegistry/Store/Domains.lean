import GatewayRegistry.Store.Terminals

/-!
# Network domains in the store

A domain has an id and a name of its own. Terminals refer to the domains they reach, and the
domains of a terminal are always replaced as a whole. Lists of domains are ordered by name.
-/

namespace GatewayRegistry

/-! ### Statements -/

namespace Store

def insertDomain (d : Domain) (s : Store) : Except StoreError Store :=
  if s.domains.any (·.name == d.name) then .error (.rejected (.duplicate .domainName))
  else if s.hasDomain d.id then .error (.rejected (.duplicate .domainId))
  else .ok { s with domains := s.domains ++ [d] }

/-- Make a terminal reach a domain, unless it does already. -/
def insertDomainLink (link : DomainLink) (s : Store) : Except StoreError Store :=
  if s.terminalDomains.contains link then .ok s
  else if !s.hasTerminal link.terminalId || !s.hasDomain link.domainId then
    .error (.rejected .dangling)
  else .ok { s with terminalDomains := s.terminalDomains ++ [link] }

def replaceDomains (terminalId : String) (ids : List String) (s : Store) :
    Except StoreError Store :=
  ids.foldlM (fun s id => s.insertDomainLink ⟨terminalId, id⟩)
    { s with terminalDomains := s.terminalDomains.filter (·.terminalId != terminalId) }

/-- The domains that a terminal reaches, ordered by name. -/
def reachedDomains (s : Store) (terminalId : String) : List Domain :=
  (s.domains.mergeSort fun a b => decide (a.name ≤ b.name)).filter fun d =>
    s.terminalDomains.contains ⟨terminalId, d.id⟩

end Store

/-! ### Calls -/

namespace Database

def createDomain (id name : String) (now : Int64) : Call Domain := do
  execute (Store.insertDomain ⟨id, name, now⟩)
  query fun s => match s.domains.find? (·.id == id) with
    | some d => .ok d
    | none => .error (.query .noRow)

def replaceDomains (terminalId : String) (ids : List String) : Call Unit :=
  execute (Store.replaceDomains terminalId ids)

def terminalDomains (terminalId : String) : Call (List Domain) :=
  query fun s => .ok (s.reachedDomains terminalId)

end Database
end GatewayRegistry
