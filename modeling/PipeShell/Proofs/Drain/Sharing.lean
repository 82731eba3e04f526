import Mathlib.Logic.Relation
import PipeShell.Drain
import PipeShell.Pipeline.State
import PipeShell.Proofs.Drain.Output

/-! # Drains that share a buffer

Several drains read streams of their own and write to one buffer. Each write takes the
buffer for itself, but between two writes of one drain any other may write. So the buffer
holds an interleaving of what the drains deliver. -/

set_option autoImplicit false

namespace PipeShell

/-! ## Interleavings

A list is an interleaving of others if each of its items can be marked with one of them
so that the items with one mark, in order, are just that list. -/

def itemsOf {α : Type} (number : Nat) (marked : List (Nat × α)) : List α :=
  (marked.filter (·.1 = number)).map Prod.snd

/-- Every item of the whole belongs to one of the parts, and every part is there as a
whole and in its own order. -/
def Interleaves {α : Type} (parts : List (List α)) (whole : List α) : Prop :=
  ∃ marked : List (Nat × α), marked.map Prod.snd = whole ∧ (∀ item ∈ marked, item.1 < parts.length) ∧
    ∀ number part, parts[number]? = some part → itemsOf number marked = part

section

variable {α : Type}

theorem itemsOf_cons (number mark : Nat) (item : α) (marked : List (Nat × α)) :
    itemsOf number ((mark, item) :: marked) =
      if mark = number then item :: itemsOf number marked else itemsOf number marked := by
  by_cases same : mark = number <;> simp [itemsOf, same]

theorem itemsOf_append (number : Nat) (marked more : List (Nat × α)) :
    itemsOf number (marked ++ more) = itemsOf number marked ++ itemsOf number more := by
  simp [itemsOf]

theorem itemsOf_map (number mark : Nat) (items : List α) :
    itemsOf number (items.map (mark, ·)) = if mark = number then items else [] := by
  induction items with
  | nil => simp [itemsOf]
  | cons item items ih =>
      rw [List.map_cons, itemsOf_cons, ih]
      split <;> rfl

private theorem itemsOf_flatMap (number : Nat) (marked : List (Nat × List α)) :
    itemsOf number (marked.flatMap fun entry => entry.2.map (entry.1, ·)) = (itemsOf number marked).flatten := by
  induction marked with
  | nil => rfl
  | cons entry marked ih =>
      rw [List.flatMap_cons, itemsOf_append, itemsOf_map, itemsOf_cons, ih]
      split <;> simp

theorem itemsOf_eq_nil {number : Nat} {marked : List (Nat × α)} (unmarked : ∀ entry ∈ marked, entry.1 ≠ number) :
    itemsOf number marked = [] := by
  simpa [itemsOf] using unmarked

theorem itemsOf_eq_map {number : Nat} {marked : List (Nat × α)} (same : ∀ entry ∈ marked, entry.1 = number) :
    itemsOf number marked = marked.map Prod.snd := by
  rw [itemsOf, List.filter_eq_self.mpr]
  simpa using same

namespace Interleaves

variable {parts front back : List (List α)} {part whole : List α}

/-- Nothing was taken from any of the parts yet. -/
theorem nil (empty : ∀ part ∈ parts, part = []) : Interleaves parts [] := by
  refine ⟨[], rfl, fun _ member => (nomatch member), ?_⟩
  intro number part found
  exact (empty part (List.mem_of_getElem? found)).symm

/-- A list from which nothing was taken yet is one more part. -/
theorem concat_nil (interleaves : Interleaves parts whole) : Interleaves (parts ++ [[]]) whole := by
  obtain ⟨marked, same, bounded, items⟩ := interleaves
  refine ⟨marked, same, fun item member => ?_, fun number part found => ?_⟩
  · have := bounded item member
    simp only [List.length_append, List.length_singleton]
    omega
  · rcases Nat.lt_or_ge number parts.length with old | new
    · rw [List.getElem?_append_left old] at found
      exact items number part found
    · -- No item has this mark yet.
      have absent : itemsOf number marked = [] := by
        simp only [itemsOf, List.map_eq_nil_iff, List.filter_eq_nil_iff, decide_eq_true_eq]
        intro item member same
        have := bounded item member
        omega
      rw [List.getElem?_append_right new] at found
      have empty : part ∈ [([] : List α)] := List.mem_of_getElem? found
      rw [absent, List.mem_singleton.mp empty]

/-- The whole goes on as one of its parts does. -/
theorem append (interleaves : Interleaves (front ++ part :: back) whole) (more : List α) :
    Interleaves (front ++ (part ++ more) :: back) (whole ++ more) := by
  obtain ⟨marked, rfl, bounded, items⟩ := interleaves
  refine ⟨marked ++ more.map (front.length, ·), by simp [Function.comp_def], ?_, ?_⟩
  · intro item member
    rcases List.mem_append.mp member with old | new
    · simpa using bounded item old
    · obtain ⟨_, _, rfl⟩ := List.mem_map.mp new
      simp
  · intro number other found
    rw [itemsOf_append, itemsOf_map]
    by_cases here : front.length = number
    · subst here
      obtain rfl : part ++ more = other := by simpa using found
      rw [if_pos rfl, items front.length part (by simp)]
    · rw [if_neg here, List.append_nil]
      refine items number other ?_
      rcases Nat.lt_or_gt_of_ne here with after | before
      · obtain ⟨offset, rfl⟩ := Nat.exists_eq_add_of_lt after
        simpa [List.getElem?_append_right, Nat.add_assoc] using found
      · simpa [List.getElem?_append_left before] using found

/-- If the parts are cut into pieces that stay whole, what the pieces consist of is
interleaved too. -/
theorem flatten {pieces : List (List (List α))} {all : List (List α)} (interleaves : Interleaves pieces all) :
    Interleaves (pieces.map List.flatten) all.flatten := by
  obtain ⟨marked, rfl, bounded, items⟩ := interleaves
  refine ⟨marked.flatMap fun entry => entry.2.map (entry.1, ·), ?_, ?_, ?_⟩
  · simp [List.flatMap_def, Function.comp_def]
  · intro item member
    obtain ⟨entry, entryMember, found⟩ := List.mem_flatMap.mp member
    obtain ⟨_, _, rfl⟩ := List.mem_map.mp found
    simpa using bounded entry entryMember
  · intro number part found
    rw [List.getElem?_map, Option.map_eq_some_iff] at found
    obtain ⟨piece, foundPiece, rfl⟩ := found
    rw [itemsOf_flatMap, items number piece foundPiece]

/-- Every item of the whole is one of some part. -/
theorem exists_mem (interleaves : Interleaves parts whole) {item : α} (member : item ∈ whole) :
    ∃ part ∈ parts, item ∈ part := by
  obtain ⟨marked, rfl, bounded, items⟩ := interleaves
  obtain ⟨⟨number, item⟩, found, rfl⟩ := List.mem_map.mp member
  have foundPart := List.getElem?_eq_getElem (bounded _ found)
  refine ⟨_, List.mem_of_getElem? foundPart, ?_⟩
  rw [← items number _ foundPart]
  exact List.mem_map.mpr ⟨(number, item), List.mem_filter.mpr ⟨found, by simp⟩, rfl⟩

end Interleaves

end

end PipeShell

/-! ## Drains at work -/

namespace PipeShell.Pipeline

/-- A drain at work on some stream. -/
structure Drainer where
  /-- What its reads have given so far. -/
  seen : List Reading := []
  /-- The writes it still has to make before it reads again. -/
  pending : List Bytes := []
  /-- The state between reads; nothing once it has stopped. -/
  drain : Option Drain := some {}
  deriving DecidableEq

namespace Drainer

def fresh : Drainer := {}

/-- A drainer is done when it has stopped reading and everything was written. -/
def isDone (drainer : Drainer) : Bool := drainer.drain.isNone && drainer.pending.isEmpty

/-- What the drainer writes from now on, left to itself, if its reads give these before
the stream ends. -/
def alone (drainer : Drainer) (readings : List Reading) : Bytes :=
  drainer.pending.flatten ++ Drain.output drainer.drain readings

end Drainer

/-- A buffer and the drains that write to it. -/
structure Sharing where
  buffer : Bytes
  drainers : List Drainer := []
  deriving DecidableEq

namespace Sharing

/-- One step of one of the drains, or the start of another one. -/
inductive Step (host : Host) : Sharing → Sharing → Prop where
  | start {buffer : Bytes} {drainers : List Drainer} : Step host ⟨buffer, drainers⟩ ⟨buffer, drainers ++ [.fresh]⟩
  | read {buffer : Bytes} {front back : List Drainer} {seen : List Reading} {drain : Drain} (reading : Reading) :
      Step host ⟨buffer, front ++ ⟨seen, [], some drain⟩ :: back⟩
        ⟨buffer, front ++
          ⟨seen ++ [reading], (drain.hear reading).1.flatMap host.deliveries, (drain.hear reading).2⟩ :: back⟩
  | write {buffer piece : Bytes} {pending : List Bytes} {front back : List Drainer} {seen : List Reading}
      {drain : Option Drain} :
      Step host ⟨buffer, front ++ ⟨seen, piece :: pending, drain⟩ :: back⟩
        ⟨buffer ++ piece, front ++ ⟨seen, pending, drain⟩ :: back⟩

/-- Any number of steps, in any order. -/
def Run (host : Host) : Sharing → Sharing → Prop := Relation.ReflTransGen (Step host)

end Sharing

private theorem Host.flatten_deliveries (host : Host) (line : Bytes) :
    (host.deliveries line).flatten = Drain.delivered line := by
  simp only [deliveries, Drain.delivered]
  split
  · simp
  · split
    · next empty => simp [List.isEmpty_iff.mp empty]
    · simp

theorem Host.flatten_flatMap_deliveries (host : Host) (lines : List Bytes) :
    (lines.flatMap host.deliveries).flatten = lines.flatMap Drain.delivered := by
  induction lines with
  | nil => rfl
  | cons line rest ih => rw [List.flatMap_cons, List.flatten_append, ih, host.flatten_deliveries, List.flatMap_cons]

/-- A drainer at two moments, with the writes it made in between. -/
structure Stint where
  earlier : Drainer
  later : Drainer
  pieces : List Bytes

namespace Stint

def written (stint : Stint) : Bytes := stint.pieces.flatten

/-- The writes and those still to be made are the ones that the readings meanwhile
call for. -/
def Proper (host : Host) (stint : Stint) : Prop :=
  ∃ readings, stint.later.seen = stint.earlier.seen ++ readings ∧
    stint.pieces ++ stint.later.pending =
      stint.earlier.pending ++ (Drain.feed stint.earlier.drain readings).1.flatMap host.deliveries ∧
    stint.later.drain = (Drain.feed stint.earlier.drain readings).2

/-- What was written is the beginning of what the drainer would write alone, and all of
it once the drainer is done. -/
def Faithful (stint : Stint) : Prop :=
  ∃ readings, stint.later.seen = stint.earlier.seen ++ readings ∧
    stint.written <+: stint.earlier.alone readings ∧
    (stint.later.isDone = true → stint.written = stint.earlier.alone readings)

variable {host : Host} {earlier : Drainer} {seen : List Reading} {pieces pending : List Bytes} {piece : Bytes}

theorem Proper.refl (drainer : Drainer) : Proper host ⟨drainer, drainer, []⟩ := by
  refine ⟨[], (List.append_nil _).symm, ?_, ?_⟩
  · cases drainer.drain <;> simp [Drain.feed]
  · cases drainer.drain <;> rfl

private theorem Proper.read {drain : Drain} (proper : Proper host ⟨earlier, ⟨seen, [], some drain⟩, pieces⟩)
    (reading : Reading) :
    Proper host ⟨earlier, ⟨seen ++ [reading], (drain.hear reading).1.flatMap host.deliveries, (drain.hear reading).2⟩,
      pieces⟩ := by
  obtain ⟨readings, sameSeen, samePieces, sameDrain⟩ := proper
  dsimp only at sameSeen samePieces sameDrain
  refine ⟨readings ++ [reading], ?_, ?_, ?_⟩
  · rw [sameSeen, List.append_assoc]
  · rw [Drain.feed_append, ← sameDrain, Drain.feed_singleton, List.flatMap_append, ← List.append_assoc,
      ← samePieces, List.append_nil]
  · rw [Drain.feed_append, ← sameDrain, Drain.feed_singleton]

private theorem Proper.write {drain : Option Drain}
    (proper : Proper host ⟨earlier, ⟨seen, piece :: pending, drain⟩, pieces⟩) :
    Proper host ⟨earlier, ⟨seen, pending, drain⟩, pieces ++ [piece]⟩ := by
  obtain ⟨readings, sameSeen, samePieces, sameDrain⟩ := proper
  refine ⟨readings, sameSeen, ?_, sameDrain⟩
  rw [← samePieces, List.append_assoc]
  rfl

theorem Proper.faithful {stint : Stint} (proper : stint.Proper host) : stint.Faithful := by
  obtain ⟨readings, sameSeen, samePieces, sameDrain⟩ := proper
  -- Alone the drainer makes the same writes, those that are pending, and those for an unfinished line.
  have alone : stint.earlier.alone readings = stint.written ++
      (stint.later.pending.flatten ++ (Drain.closing stint.later.drain).flatMap Drain.delivered) := by
    have bytes := congrArg List.flatten samePieces
    rw [List.flatten_append, List.flatten_append, host.flatten_flatMap_deliveries] at bytes
    rw [Drainer.alone, Drain.output_eq, List.flatMap_append, ← List.append_assoc, ← bytes, sameDrain, written,
      List.append_assoc]
  refine ⟨readings, sameSeen, ?_, ?_⟩
  · rw [alone]
    exact List.prefix_append _ _
  · intro done
    obtain ⟨stopped, empty⟩ := Bool.and_eq_true_iff.mp done
    rw [alone, Option.isNone_iff_eq_none.mp stopped, List.isEmpty_iff.mp empty]
    simp [Drain.closing]

end Stint

namespace Sharing

/-- What became of the drains and the buffer since some moment: one stint for each
drain, and the writes of all of them, interleaved, at the end of the buffer. -/
structure Account (host : Host) (start after : Sharing) (stints : List Stint) (pieces : List Bytes) : Prop where
  earlier : ∃ started, stints.map Stint.earlier = start.drainers ++ List.replicate started .fresh
  later : stints.map Stint.later = after.drainers
  proper : ∀ stint ∈ stints, stint.Proper host
  buffer : after.buffer = start.buffer ++ pieces.flatten
  interleaves : Interleaves (stints.map Stint.pieces) pieces

namespace Account

variable {host : Host} {start : Sharing} {stints : List Stint} {pieces : List Bytes}

private theorem refl (start : Sharing) :
    Account host start start (start.drainers.map fun drainer => ⟨drainer, drainer, []⟩) [] where
  earlier := ⟨0, by simp [Function.comp_def]⟩
  later := by simp [Function.comp_def]
  proper := by
    intro stint member
    obtain ⟨drainer, _, rfl⟩ := List.mem_map.mp member
    exact .refl drainer
  buffer := (List.append_nil _).symm
  interleaves := by
    refine .nil ?_
    intro part member
    obtain ⟨_, found, rfl⟩ := List.mem_map.mp member
    obtain ⟨_, _, rfl⟩ := List.mem_map.mp found
    rfl

/-- The stints are those of the drains, so where the drains are split they can be split
too. -/
theorem split {buffer : Bytes} {front back : List Drainer} {drainer : Drainer}
    (account : Account host start ⟨buffer, front ++ drainer :: back⟩ stints pieces) :
    ∃ frontStints backStints stint, stints = frontStints ++ stint :: backStints ∧
      frontStints.map Stint.later = front ∧ stint.later = drainer ∧ backStints.map Stint.later = back := by
  obtain ⟨frontStints, rest, rfl, sameFront, sameRest⟩ := List.map_eq_append_iff.mp account.later
  obtain ⟨stint, backStints, rfl, sameDrainer, sameBack⟩ := List.map_eq_cons_iff.mp sameRest
  exact ⟨frontStints, backStints, stint, rfl, sameFront, sameDrainer, sameBack⟩

private theorem start_drainer {buffer : Bytes} {drainers : List Drainer}
    (account : Account host start ⟨buffer, drainers⟩ stints pieces) :
    Account host start ⟨buffer, drainers ++ [.fresh]⟩ (stints ++ [⟨.fresh, .fresh, []⟩]) pieces where
  earlier := by
    obtain ⟨started, same⟩ := account.earlier
    refine ⟨started + 1, ?_⟩
    rw [List.map_append, same, List.append_assoc, List.replicate_succ']
    rfl
  later := by rw [List.map_append, account.later]; rfl
  proper := by
    intro stint member
    rcases List.mem_append.mp member with old | new
    · exact account.proper stint old
    · obtain rfl := List.mem_singleton.mp new
      exact .refl .fresh
  buffer := account.buffer
  interleaves := by
    rw [List.map_append]
    exact account.interleaves.concat_nil

private theorem read {buffer : Bytes} {front back : List Drainer} {seen : List Reading} {drain : Drain}
    (account : Account host start ⟨buffer, front ++ ⟨seen, [], some drain⟩ :: back⟩ stints pieces)
    (reading : Reading) : ∃ stints, Account host start ⟨buffer, front ++
      ⟨seen ++ [reading], (drain.hear reading).1.flatMap host.deliveries, (drain.hear reading).2⟩ :: back⟩
      stints pieces := by
  obtain ⟨frontStints, backStints, ⟨earlier, later, mine⟩, rfl, rfl, rfl, rfl⟩ := account.split
  refine ⟨frontStints ++ ⟨earlier, _, mine⟩ :: backStints, ?_, List.map_append, ?_, account.buffer, ?_⟩
  · obtain ⟨started, same⟩ := account.earlier
    exact ⟨started, by simpa using same⟩
  · intro stint member
    rcases List.mem_append.mp member with before | here
    · exact account.proper stint (List.mem_append_left _ before)
    · rcases List.mem_cons.mp here with rfl | behind
      · exact (account.proper _ (by simp)).read reading
      · exact account.proper stint (by simp [behind])
  · simpa using account.interleaves

private theorem write {buffer piece : Bytes} {pending : List Bytes} {front back : List Drainer} {seen : List Reading}
    {drain : Option Drain}
    (account : Account host start ⟨buffer, front ++ ⟨seen, piece :: pending, drain⟩ :: back⟩ stints pieces) :
    ∃ stints, Account host start ⟨buffer ++ piece, front ++ ⟨seen, pending, drain⟩ :: back⟩ stints
      (pieces ++ [piece]) := by
  obtain ⟨frontStints, backStints, ⟨earlier, later, mine⟩, rfl, rfl, rfl, rfl⟩ := account.split
  refine ⟨frontStints ++ ⟨earlier, _, mine ++ [piece]⟩ :: backStints, ?_, List.map_append, ?_, ?_, ?_⟩
  · obtain ⟨started, same⟩ := account.earlier
    exact ⟨started, by simpa using same⟩
  · intro stint member
    rcases List.mem_append.mp member with before | here
    · exact account.proper stint (List.mem_append_left _ before)
    · rcases List.mem_cons.mp here with rfl | behind
      · exact (account.proper _ (by simp)).write
      · exact account.proper stint (by simp [behind])
  · have same : buffer = start.buffer ++ pieces.flatten := account.buffer
    simp [same]
  · have interleaves := account.interleaves
    rw [List.map_append, List.map_cons] at interleaves ⊢
    exact interleaves.append [piece]

end Account

/-- Whatever the drains do, every byte in the buffer stays where it is, and what comes
after is accounted for. -/
theorem Run.account {host : Host} {start after : Sharing} (run : Run host start after) :
    ∃ stints pieces, Account host start after stints pieces := by
  induction run with
  | refl => exact ⟨_, _, .refl start⟩
  | tail _ step ih =>
      obtain ⟨stints, pieces, account⟩ := ih
      cases step with
      | start => exact ⟨_, _, account.start_drainer⟩
      | read reading =>
          obtain ⟨stints, account⟩ := account.read reading
          exact ⟨stints, _, account⟩
      | write =>
          obtain ⟨stints, account⟩ := account.write
          exact ⟨stints, _, account⟩

end Sharing

end PipeShell.Pipeline
