import Youtick.Bridge.StatelessDecisions

/-!
# Bridge: how stale a stateless playback decision can be

What holds of every run: decisions are justified by what was read before them, a lookup extends the
life of no entry, and the cache stays within its size. A decision can still come later than the
lifetime of a value it rests on, because the lifetime is compared at the lookup alone.
-/

set_option autoImplicit false

namespace Youtick.Bridge.Stateless

open Youtick.Lib

/-- The texts that were hashed in a run. -/
def hashed (tr : List (Transition (Config Edge NumberedOp String Unit Incoming)
    (Event EdgeInput Incoming Empty))) : List String :=
  tr.filterMap fun x => (x.pre.operation x.label).bind fun op => op.2.op.hashes

section Runs

variable {library : PlaybackLibrary} {env : PlaybackV2Env} {clockMs : Nat}
  {tr : List (Transition (Config Edge NumberedOp String Unit Incoming)
    (Event EdgeInput Incoming Empty))}
  {c : Config Edge NumberedOp String Unit Incoming}

theorem meets_hashed {x : Transition (Config Edge NumberedOp String Unit Incoming)
    (Event EdgeInput Incoming Empty)} (hx : x ∈ tr) :
    (edgeDiscipline library env {value | value ∈ hashed tr}).Meets x := by
  intro incoming β op i hexecutes value hvalue
  refine List.mem_filterMap.mpr ⟨x, hx, ?_⟩
  rw [hexecutes.operation]
  exact hvalue

/-- In every run the decisions are justified, the lookups extend the life of no entry, and the cache
holds at most its maximum of entries, each under its own key. -/
theorem playback_staleness
    (h : Trace (ExecStep (edgeSystem library env).next) ⟨start clockMs, []⟩ tr c)
    (hsha : Set.InjOn (digestOf library.platform) {value | value ∈ hashed tr}) :
    Lawful library env c.shared.journal ∧
    ∀ x ∈ tr, Refreshes library env {value | value ∈ hashed tr} x.pre.shared x.post.shared ∧
      RecencyCache.WellFormed playbackCacheMaxRecords x.pre.shared.cache ∧
      RecencyCache.WellFormed playbackCacheMaxRecords c.shared.cache := by
  have hrun := Discipline.run (D := edgeDiscipline library env {value | value ∈ hashed tr})
    (fun incoming s _ => handle_safe hsha incoming s) (Discipline.sound_idle (kept_start clockMs)) h
    fun _ hx => meets_hashed hx
  obtain ⟨hend, hall⟩ := hrun
  refine ⟨hend.inv.lawful, fun x hx => ?_⟩
  obtain ⟨hpre, hmoves⟩ := hall x hx
  refine ⟨?_, hpre.inv.bounded, hend.inv.bounded⟩
  cases hmoves with
  | still hstill =>
    rw [hstill]
    exact fun _ hentry => .inl hentry
  | world e he hstep => exact nomatch e
  | acted incoming hguar => exact hguar.2

end Runs

end Youtick.Bridge.Stateless
