import GatewayRegistry.Proofs.Runs.Reachable
import GatewayRegistry.Proofs.Store.Offers

/-!
# Bulk insertions in a run

What is inserted in bulk for platforms and for assets, after any run
(`Deployment.offers_inserted_in_bulk`).
-/

namespace GatewayRegistry
namespace Deployment

variable {d : Deployment}

/-- Whatever rows are given for platforms or for assets, an insertion fails exactly if one of the
owners is not there, and then nothing has changed. Otherwise the table gains the first row for each
key that was not taken, in order and under new numbers, and the answer is how many these are. Two
batches in a row do what they do as one, and the same batch adds nothing twice. -/
theorem offers_inserted_in_bulk (h : d.Reachable) (hopen : d.database.isOpen = true) :
    (∀ news, OfferKind.platforms.InsertsFirst d.database news) ∧
      ∀ news, OfferKind.assets.InsertsFirst d.database news := by
  have hready : d.database.Ready := ⟨hopen, h.consistent⟩
  constructor
  · intro news
    exact OfferKind.platforms_lawful.inserts_first hready news
  · intro news
    exact OfferKind.assets_lawful.inserts_first hready news

/-- One of the protocols is there already and one is given twice. Nothing is inserted if one of the
owners is not there. -/
theorem offers_inserted_in_bulk_of_repetitions :
    let d := ({} : Deployment).after [
      ⟨_, .store (.createPlatform "Linux" "linux")⟩, ⟨_, .store (.createAsset "web" "Web" 1)⟩,
      ⟨_, .store (.insertAssetProtocols [⟨"web", "ssh", 22⟩])⟩]
    let news : List NewAssetProtocol :=
      [⟨"web", "ssh", 2222⟩, ⟨"web", "sftp", 22⟩, ⟨"web", "sftp", 2022⟩, ⟨"web", "rdp", 3389⟩]
    let nobody : NewPlatformProtocol := ⟨7, "ssh", 22, true, false, false, true, "\x7b\x7d"⟩
    (∃ db', Database.insertAssetProtocols news d.database = (.ok 2, db') ∧
      db'.store.assetProtocols =
        ⟨[⟨1, "web", "ssh", 22⟩, ⟨3, "web", "sftp", 22⟩, ⟨5, "web", "rdp", 3389⟩], 5⟩ ∧
      ∃ db'', Database.insertAssetProtocols news db' = (.ok 0, db'')) ∧
    ∃ e, Database.insertPlatformProtocols [nobody] d.database = (.error e, d.database) := by
  intro d news nobody
  have hopen : d.database.isOpen = true := by decide +kernel
  obtain ⟨hplatforms, hassets⟩ := offers_inserted_in_bulk (d := d) (.after _) hopen
  refine ⟨?_, ?_⟩
  · have hanswer : (Database.insertAssetProtocols news d.database).1 = .ok 2 := by decide +kernel
    obtain ⟨db'', hagain, -⟩ := (hassets news).again 2 _ (Prod.ext hanswer rfl)
    exact ⟨_, Prod.ext hanswer rfl, by decide +kernel, db'', hagain⟩
  · have hunknown : OfferKind.platforms.knows d.database.store (OfferKind.platforms.key nobody) = false := by
      decide +kernel
    obtain ⟨e, db', hrun⟩ := (hplatforms [nobody]).fails_iff.mpr ⟨nobody, List.mem_cons_self, hunknown⟩
    obtain ⟨-, rfl⟩ := (hplatforms [nobody]).refused e db' hrun
    exact ⟨e, hrun⟩

end Deployment
end GatewayRegistry
