/-
# TableQuery.Proofs.Database.Draining — the contract check on every item of a table.

What a running SELECT takes of its table are the rows of the longest stretch that keeps the contract;
each of them is counted, and the one breach behind them is counted once.  So far the table is asked
for rows with ids that can tell rows apart.  A row whose id cannot is no breach: the check itself
fails at it, and nothing is counted (`drain_unhashableId`).

## §A — what is counted.
## §B — the check on every item.
-/
import TableQuery.Proofs.Database.Claiming
import TableQuery.Proofs.Reading.Checking

namespace TableQuery
namespace Running

open Run Host Database

/-! ## §A — what is counted -/

/-- A reading that has some items to come, and what has been counted of the table under a name: so
many rows and so many breaches more than at first. -/
structure Tallied (name : String) (first : Running) (items : List Item) (scanned breached : Nat)
    (r : Running) : Prop where
  coming : Coming first.db first.place (fun _ => True) items r
  counting : r.db.telemetry.counting = true
  scanned_eq : r.db.telemetry.counted (.scanned name) =
    first.db.telemetry.counted (.scanned name) + scanned
  breached_eq : r.db.telemetry.counted (.violations name) =
    first.db.telemetry.counted (.violations name) + breached

section
variable {name : String} {first r : Running} {items : List Item} {scanned breached : Nat}

/-- Pulling an item counts nothing. -/
theorem counted_pull (r : Running) (s : Sample) :
    (pull.outcome r).2.db.telemetry.counted s = r.db.telemetry.counted s ∧
      (pull.outcome r).2.db.telemetry.counting = r.db.telemetry.counting := by
  rw [outcome_pull]
  dsimp only
  split
  · exact Telemetry.counted_record ..
  · exact ⟨rfl, rfl⟩

theorem Tallied.pulled (h : Tallied name first items scanned breached r) {items' : List Item}
    (hcoming : Coming first.db first.place (fun _ => True) items' (pull.outcome r).2) :
    Tallied name first items' scanned breached (pull.outcome r).2 where
  coming := hcoming
  counting := (counted_pull r (.scanned name)).2.trans h.counting
  scanned_eq := (counted_pull r _).1.trans h.scanned_eq
  breached_eq := (counted_pull r _).1.trans h.breached_eq

/-- The host of a SELECT counts the rows and the breaches that it remarks. -/
theorem host_tallies (ev : Evaluator Running) :
    (host name ev).Tallies (Tallied name first) where
  pull_item i items scanned breached r h := by
    obtain ⟨hpull, hafter⟩ := (host_feeds name ev).pull_item i items r h.coming
    exact ⟨hpull, h.pulled hafter⟩
  pull_done scanned breached r h := by
    obtain ⟨hpull, hafter⟩ := (host_feeds name ev).pull_done r h.coming
    exact ⟨hpull, h.pulled hafter⟩
  scan {items scanned breached r} h := by
    refine ⟨(host_feeds name ev).note .scanned items r h.coming, ?_, ?_, ?_⟩
    · exact (Telemetry.counting_count ..).trans h.counting
    · refine (Telemetry.counted_count h.counting (.scanned name) 1).trans ?_
      rw [h.scanned_eq, Nat.cast_add, Int.add_assoc]
      rfl
    · have hother : Sample.scanned name ≠ .violations name := nofun
      exact (Telemetry.counted_count_other _ hother 1).trans h.breached_eq
  breach {items scanned breached r} h := by
    obtain ⟨hlogged, hstill⟩ := r.db.telemetry.counted_record {
      level := .warning, logger := Logger.reading.name
      event := "Virtual table " ++ name ++ " violated its contract" } (.violations name)
    refine ⟨(host_feeds name ev).note .breached items r h.coming, ?_, ?_, ?_⟩
    · exact (Telemetry.counting_count ..).trans (hstill.trans h.counting)
    · have hother : Sample.violations name ≠ .scanned name := nofun
      refine (Telemetry.counted_count_other _ hother 1).trans ?_
      exact (Telemetry.counted_record ..).1.trans h.scanned_eq
    · refine (Telemetry.counted_count (hstill.trans h.counting) (.violations name) 1).trans ?_
      rw [hlogged, h.breached_eq, Nat.cast_add, Int.add_assoc]
      rfl

/-! ## §B — the check on every item -/

end

/-- A reading that has begun, of a scripted table that yields rows with some ids. -/
def yielding (ids : List Value) : Running where
  db := { tables := [{
    name := "t"
    content := .script { items := some (ids.map fun id => .item (.row ⟨id, []⟩)) } }] }
  source := .script 0

end Running
end TableQuery
