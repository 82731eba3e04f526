import PipeShell.Proofs.Drain.StreamEnd

/-! # Sinks that become full

A vessel stands for any sink that takes so many bytes in all, in calls of whatever sizes, and
fails from then on. However a drain gets rid of its lines there, the vessel ends up with the
beginning of what a sink without a limit would have got. If the stream itself fails, that is
all up to the last newline before the failure. -/

set_option autoImplicit false

namespace PipeShell

open Reading (given ofItems)

/-- A sink that still takes some bytes and then fails. -/
structure Vessel where
  taken : Bytes
  room : Nat
  flushes : Nat
  deriving DecidableEq, Repr

namespace Vessel

def pour (vessel : Vessel) (piece : Bytes) : Vessel :=
  { vessel with taken := vessel.taken ++ piece, room := vessel.room - piece.length }

def flush (vessel : Vessel) : Vessel := { vessel with flushes := vessel.flushes + 1 }

/-- Bytes are written call by call until all of them are taken. Each call takes at least one
byte and at most as many as there is room for. Only a call that finds no room fails, and not as
one that would be tried again. -/
inductive Writes (refusal : System.Failure) : Vessel → Bytes → Vessel → Option System.Failure → Prop where
  | done {vessel : Vessel} : Writes refusal vessel [] vessel none
  | call {vessel after : Vessel} {piece rest : Bytes} {failed : Option System.Failure} :
      piece ≠ [] → piece.length ≤ vessel.room → Writes refusal (vessel.pour piece) rest after failed →
      Writes refusal vessel (piece ++ rest) after failed
  | refused {vessel : Vessel} {rest : Bytes} :
      rest ≠ [] → vessel.room = 0 → refusal.kindOf ≠ .interrupted →
      Writes refusal vessel rest vessel (some refusal)

/-- Lines are delivered one after the other, each as its text, a newline and a flush. -/
inductive Delivers (refusal : System.Failure) : Vessel → List Bytes → Vessel → Option System.Failure → Prop where
  | done {vessel : Vessel} : Delivers refusal vessel [] vessel none
  | line {vessel between next after : Vessel} {line : Bytes} {rest : List Bytes} {failed : Option System.Failure} :
      Writes refusal vessel (Drain.lineText line) between none → Writes refusal between [newline] next none →
      Delivers refusal next.flush rest after failed → Delivers refusal vessel (line :: rest) after failed
  | textRefused {vessel after : Vessel} {line : Bytes} {rest : List Bytes} {failure : System.Failure} :
      Writes refusal vessel (Drain.lineText line) after (some failure) →
      Delivers refusal vessel (line :: rest) after (some failure)
  | newlineRefused {vessel between after : Vessel} {line : Bytes} {rest : List Bytes} {failure : System.Failure} :
      Writes refusal vessel (Drain.lineText line) between none → Writes refusal between [newline] after (some failure) →
      Delivers refusal vessel (line :: rest) after (some failure)

/-- A drain copies what the readings give into a vessel. -/
inductive Copies (refusal : System.Failure) :
    Drain → Vessel → List Reading → Vessel → Option System.Failure → Prop where
  | ended {drain : Drain} {vessel after : Vessel} {failed : Option System.Failure} :
      Delivers refusal vessel (drain.receive []).1 after failed → Copies refusal drain vessel [] after failed
  | again {drain : Drain} {vessel after : Vessel} {failure : System.Failure} {rest : List Reading}
      {failed : Option System.Failure} :
      failure.kindOf = .interrupted → Copies refusal drain vessel rest after failed →
      Copies refusal drain vessel (.failed failure :: rest) after failed
  | broken {drain : Drain} {vessel : Vessel} {failure : System.Failure} {rest : List Reading} :
      failure.kindOf ≠ .interrupted → Copies refusal drain vessel (.failed failure :: rest) vessel (some failure)
  | refused {drain : Drain} {vessel after : Vessel} {bytes : Bytes} {rest : List Reading} {failure : System.Failure} :
      Delivers refusal vessel (drain.receive bytes).1 after (some failure) →
      Copies refusal drain vessel (.data bytes :: rest) after (some failure)
  | stopped {drain : Drain} {vessel after : Vessel} {bytes : Bytes} {rest : List Reading} :
      Delivers refusal vessel (drain.receive bytes).1 after none → (drain.receive bytes).2 = none →
      Copies refusal drain vessel (.data bytes :: rest) after none
  | goesOn {drain later : Drain} {vessel next after : Vessel} {bytes : Bytes} {rest : List Reading}
      {failed : Option System.Failure} :
      Delivers refusal vessel (drain.receive bytes).1 next none → (drain.receive bytes).2 = some later →
      Copies refusal later next rest after failed → Copies refusal drain vessel (.data bytes :: rest) after failed

/-! ## What a vessel takes -/

/-- A vessel was offered some bytes: it has taken what there was room for, and was flushed so
many times. -/
structure Filled (refusal : System.Failure) (vessel : Vessel) (offered : Bytes) (flushes : Nat) (after : Vessel)
    (failed : Option System.Failure) : Prop where
  taken : after.taken = vessel.taken ++ offered.take vessel.room
  room : after.room = vessel.room - offered.length
  flushes : after.flushes = vessel.flushes + flushes
  failed : failed = if vessel.room < offered.length then some refusal else none

namespace Filled

variable {refusal : System.Failure} {vessel next after : Vessel} {front back : Bytes} {count more : Nat}
  {failed : Option System.Failure}

theorem le_room (filled : Filled refusal vessel front count next none) : front.length ≤ vessel.room := by
  have complete := filled.failed
  split at complete
  · cases complete
  · omega

theorem lt_length {failure : System.Failure} (filled : Filled refusal vessel front count after (some failure)) :
    vessel.room < front.length := by
  have refused := filled.failed
  split at refused
  · assumption
  · cases refused

theorem append (first : Filled refusal vessel front count next none)
    (second : Filled refusal next back more after failed) :
    Filled refusal vessel (front ++ back) (count + more) after failed := by
  have fits := first.le_room
  constructor
  case taken => rw [second.taken, first.taken, first.room, List.take_append, List.append_assoc]
  case room => rw [second.room, first.room, List.length_append, Nat.sub_add_eq]
  case flushes => rw [second.flushes, first.flushes, Nat.add_assoc]
  case failed =>
    have same : next.room < back.length ↔ vessel.room < (front ++ back).length := by
      rw [first.room, List.length_append]
      omega
    rw [second.failed]
    simp only [same]

private theorem cut {failure : System.Failure} (filled : Filled refusal vessel front count after (some failure))
    (back : Bytes) :
    Filled refusal vessel (front ++ back) count after (some failure) := by
  have full := filled.lt_length
  constructor
  case taken => rw [filled.taken, List.take_append_of_le_length (by omega)]
  case room =>
    rw [filled.room, List.length_append]
    omega
  case flushes => exact filled.flushes
  case failed => rw [filled.failed, if_pos full, if_pos (by rw [List.length_append]; omega)]

private theorem flush (filled : Filled refusal vessel front count after none) :
    Filled refusal vessel front (count + 1) after.flush none where
  taken := filled.taken
  room := filled.room
  flushes := by rw [Vessel.flush, filled.flushes, Nat.add_assoc]
  failed := filled.failed

end Filled

section

variable {refusal : System.Failure} {vessel after : Vessel} {failed : Option System.Failure}

/-- The sizes of the calls make no difference. -/
theorem Writes.filled {bytes : Bytes} (writes : Writes refusal vessel bytes after failed) :
    Filled refusal vessel bytes 0 after failed := by
  induction writes with
  | done => constructor <;> simp
  | @call vessel _ piece _ _ _ fits _ ih =>
      have first : Filled refusal vessel piece 0 (vessel.pour piece) none := by
        constructor <;> simp [pour, List.take_of_length_le fits, Nat.not_lt.mpr fits]
      exact first.append ih
  | refused nonempty full _ =>
      constructor <;> simp [full, List.length_pos_iff, nonempty]

/-- No newline is taken before the text of the first line is. -/
theorem count_take_eq_zero {line : Bytes} (clean : newline ∉ Drain.lineText line) (rest : List Bytes) {room : Nat}
    (short : room ≤ (Drain.lineText line).length) :
    (((line :: rest).flatMap Drain.delivered).take room).count newline = 0 := by
  rw [List.flatMap_cons, Drain.delivered, List.append_assoc, List.take_append_of_le_length short]
  exact List.count_eq_zero_of_not_mem fun member => clean (List.mem_of_mem_take member)

/-- One flush for each newline that was taken. -/
theorem Delivers.filled {lines : List Bytes} (delivers : Delivers refusal vessel lines after failed)
    (single : ∀ line ∈ lines, newline ∉ Drain.lineText line) :
    Filled refusal vessel (lines.flatMap Drain.delivered)
      (((lines.flatMap Drain.delivered).take vessel.room).count newline) after failed := by
  induction delivers with
  | done => constructor <;> simp
  | @line vessel between next after line rest failed text mark _ ih =>
      obtain ⟨clean, later⟩ := List.forall_mem_cons.mp single
      have whole : Filled refusal vessel (Drain.delivered line) 1 next.flush none :=
        (text.filled.append mark.filled).flush
      have one : (Drain.delivered line).count newline = 1 := by
        rw [Drain.delivered, List.count_append, List.count_eq_zero_of_not_mem clean, List.count_singleton_self]
      have all := whole.append (ih later)
      rw [whole.room] at all
      rw [List.flatMap_cons, List.take_append, List.take_of_length_le whole.le_room, List.count_append, one]
      exact all
  | textRefused text =>
      obtain ⟨clean, _⟩ := List.forall_mem_cons.mp single
      rw [count_take_eq_zero clean _ text.filled.lt_length.le, List.flatMap_cons, Drain.delivered, List.append_assoc]
      exact text.filled.cut _
  | newlineRefused text mark =>
      obtain ⟨clean, _⟩ := List.forall_mem_cons.mp single
      have filled := text.filled.append mark.filled
      have full := filled.lt_length
      rw [List.length_append, List.length_singleton] at full
      rw [count_take_eq_zero clean _ (Nat.le_of_lt_succ full), List.flatMap_cons]
      exact filled.cut _

/-! ## Which lines a drain delivers -/

theorem Delivers.append {next : Vessel} {front back : List Bytes} (first : Delivers refusal vessel front next none)
    (second : Delivers refusal next back after failed) : Delivers refusal vessel (front ++ back) after failed := by
  generalize complete : (none : Option System.Failure) = failure at first
  induction first with
  | done => exact second
  | line text mark _ ih => exact .line text mark (ih second complete)
  | textRefused | newlineRefused => cases complete

theorem Delivers.cut {front : List Bytes} {failure : System.Failure}
    (delivers : Delivers refusal vessel front after (some failure)) (back : List Bytes) :
    Delivers refusal vessel (front ++ back) after (some failure) := by
  generalize refused : some failure = failed at delivers
  induction delivers with
  | done => cases refused
  | line text mark _ ih => exact .line text mark (ih refused)
  | textRefused text => exact .textRefused text
  | newlineRefused text mark => exact .newlineRefused text mark

/-- While the stream goes on, a drain does nothing but deliver the lines that are complete. -/
theorem Copies.split {front back : List Reading} (steady : ∀ reading ∈ front, reading.GoesOn) {drain : Drain}
    (clean : newline ∉ drain.unfinished) (copies : Copies refusal drain vessel (front ++ back) after failed) :
    (∃ failure, failed = some failure ∧
        Delivers refusal vessel (Drain.splitLines (drain.unfinished ++ given front)).1 after (some failure)) ∨
      ∃ next, Delivers refusal vessel (Drain.splitLines (drain.unfinished ++ given front)).1 next none ∧
        Copies refusal ⟨(Drain.splitLines (drain.unfinished ++ given front)).2⟩ next back after failed := by
  induction front generalizing drain vessel with
  | nil =>
      refine .inr ⟨vessel, ?_⟩
      rw [Reading.given_nil, List.append_nil, Drain.splitLines_of_clean clean]
      exact ⟨.done, copies⟩
  | cons reading rest ih =>
      obtain ⟨goesOn, later⟩ := List.forall_mem_cons.mp steady
      cases reading with
      | failed failure =>
          have repeated : failure.kindOf = .interrupted := goesOn
          rw [Reading.given_failed]
          cases copies with
          | again _ copies => exact ih later clean copies
          | broken other => exact absurd repeated other
      | data bytes =>
          have cleanAfter := (Drain.splitLines_spec (drain.unfinished ++ bytes)).2
          have received := Drain.receive_data goesOn drain
          rw [Reading.given_data, ← List.append_assoc, Drain.splitLines_append]
          cases copies with
          | refused delivers =>
              rw [received] at delivers
              exact .inl ⟨_, rfl, delivers.cut _⟩
          | stopped _ stops =>
              rw [received] at stops
              cases stops
          | goesOn delivers goes copies =>
              rw [received] at delivers goes
              cases goes
              rcases ih later cleanAfter copies with ⟨failure, same, more⟩ | ⟨next, more, copies⟩
              · exact .inl ⟨failure, same, delivers.append more⟩
              · exact .inr ⟨next, delivers.append more, copies⟩

end

/-! ## Sinks as vessels -/

/-- The vessel shows what the sink has taken and how much room it has left. -/
structure Of (vessel : Vessel) (sink : Sink) : Prop where
  taken : vessel.taken = sink.taken
  room : sink.room = some vessel.room
  flushes : vessel.flushes = sink.flushes

section

variable {vessel : Vessel} {sink : Sink}

@[simp] theorem pour_nil (vessel : Vessel) : vessel.pour [] = vessel := by simp [pour]

private theorem writes_pour (refusal : System.Failure) {bytes : Bytes} (fits : bytes.length ≤ vessel.room) :
    Writes refusal vessel bytes (vessel.pour bytes) none := by
  by_cases nothing : bytes = []
  · subst nothing
    rw [pour_nil]
    exact .done
  · have writes : Writes refusal vessel (bytes ++ []) (vessel.pour bytes) none := .call nothing fits .done
    rwa [List.append_nil] at writes

private theorem writes_take {refusal : System.Failure} (final : refusal.kindOf ≠ .interrupted) {bytes : Bytes}
    (exceeds : vessel.room < bytes.length) :
    Writes refusal vessel bytes (vessel.pour (bytes.take vessel.room)) (some refusal) := by
  by_cases full : vessel.room = 0
  · have nonempty : bytes ≠ [] := List.ne_nil_of_length_pos (by omega)
    rw [full, List.take_zero, pour_nil]
    exact .refused nonempty full final
  · have some : bytes.take vessel.room ≠ [] := List.ne_nil_of_length_pos (by rw [List.length_take]; omega)
    have left : bytes.drop vessel.room ≠ [] := List.ne_nil_of_length_pos (by rw [List.length_drop]; omega)
    have fits : (bytes.take vessel.room).length ≤ vessel.room := List.length_take_le _ _
    have last : vessel.room - (bytes.take vessel.room).length = 0 := by
      rw [List.length_take]
      omega
    have refused : Writes refusal (vessel.pour (bytes.take vessel.room)) (bytes.drop vessel.room)
        (vessel.pour (bytes.take vessel.room)) (Option.some refusal) := .refused left last final
    have writes := Writes.call some fits refused
    rwa [List.take_append_drop] at writes

private theorem exists_writes (shows : vessel.Of sink) (bytes : Bytes) :
    ∃ after, after.Of (sink.write bytes).1 ∧ Writes Sink.full vessel bytes after (sink.write bytes).2 := by
  by_cases fits : bytes.length ≤ vessel.room
  · have written : sink.write bytes =
        ({ sink with pieces := bytes :: sink.pieces, room := some (vessel.room - bytes.length) }, none) := by
      simp only [Sink.write, shows.room, if_pos fits]
    rw [written]
    refine ⟨vessel.pour bytes, ⟨?_, rfl, shows.flushes⟩, writes_pour _ fits⟩
    simp [pour, Sink.taken, shows.taken]
  · have written : sink.write bytes =
        ({ sink with pieces := bytes.take vessel.room :: sink.pieces, room := some 0 }, some Sink.full) := by
      simp only [Sink.write, shows.room, if_neg fits]
    rw [written]
    refine ⟨vessel.pour (bytes.take vessel.room), ⟨?_, ?_, shows.flushes⟩, writes_take (by decide) (Nat.not_le.mp fits)⟩
    · simp [pour, Sink.taken, shows.taken]
    · simp only [pour, List.length_take, Option.some.injEq]
      omega

private theorem Of.flush (shows : vessel.Of sink) : vessel.flush.Of sink.flush where
  taken := shows.taken
  room := shows.room
  flushes := congrArg (· + 1) shows.flushes

private theorem exists_delivers (shows : vessel.Of sink) (lines : List Bytes) :
    ∃ after, after.Of (sink.deliverAll lines).1 ∧ Delivers Sink.full vessel lines after (sink.deliverAll lines).2 := by
  induction lines generalizing vessel sink with
  | nil => exact ⟨vessel, shows, .done⟩
  | cons line rest ih =>
      obtain ⟨between, showsText, text⟩ := exists_writes shows (Drain.lineText line)
      simp only [Sink.deliverAll, Sink.deliver]
      cases written : sink.write (Drain.lineText line) with
      | mk afterText failed =>
          rw [written] at showsText text
          cases failed with
          | some failure => exact ⟨between, showsText, .textRefused text⟩
          | none =>
              obtain ⟨next, showsMark, mark⟩ := exists_writes showsText [newline]
              dsimp only
              cases marked : afterText.write [newline] with
              | mk afterMark failed =>
                  rw [marked] at showsMark mark
                  cases failed with
                  | some failure => exact ⟨next, showsMark, .newlineRefused text mark⟩
                  | none =>
                      obtain ⟨after, showsRest, delivers⟩ := ih showsMark.flush
                      exact ⟨after, showsRest, .line text mark delivers⟩

/-- What a drain does to a sink is one of the ways in which it can copy to the vessel. -/
theorem exists_copies (shows : vessel.Of sink) (drain : Drain) (readings : List Reading) :
    ∃ after, after.Of (drain.copy sink readings).1 ∧
      Copies Sink.full drain vessel readings after (drain.copy sink readings).2 := by
  induction readings generalizing drain vessel sink with
  | nil =>
      obtain ⟨after, showsAll, delivers⟩ := exists_delivers shows (drain.receive []).1
      exact ⟨after, showsAll, .ended delivers⟩
  | cons reading rest ih =>
      cases reading with
      | failed failure =>
          simp only [Drain.copy]
          split
          · next repeated =>
              obtain ⟨after, showsAll, copies⟩ := ih shows drain
              exact ⟨after, showsAll, .again repeated copies⟩
          · next other => exact ⟨vessel, shows, .broken other⟩
      | data bytes =>
          obtain ⟨next, showsLines, delivers⟩ := exists_delivers shows (drain.receive bytes).1
          simp only [Drain.copy]
          cases delivered : sink.deliverAll (drain.receive bytes).1 with
          | mk between failed =>
              rw [delivered] at showsLines delivers
              cases failed with
              | some failure => exact ⟨next, showsLines, .refused delivers⟩
              | none =>
                  dsimp only
                  cases goes : (drain.receive bytes).2 with
                  | none => exact ⟨next, showsLines, .stopped delivers goes⟩
                  | some later =>
                      obtain ⟨after, showsAll, copies⟩ := ih showsLines later
                      exact ⟨after, showsAll, .goesOn delivers goes copies⟩

end

end Vessel

/-! ## How the stream ends -/

namespace Drain

/-- The lines that a drain has to deliver of a stream that gave some bytes and ends in this
way, and what it answers if the sink takes them all. -/
inductive Ending (bytes : Bytes) : List Reading → List Bytes → Option System.Failure → Prop where
  | ended : Ending bytes [] (Text.cutBehind newline bytes) none
  | broken {failure : System.Failure} {rest : List Reading} : failure.kindOf ≠ .interrupted →
      Ending bytes (.failed failure :: rest) (splitLines bytes).1 (some failure)

variable {items ending : List Reading} {lines : List Bytes} {result : Option System.Failure}

private theorem Ending.single {bytes : Bytes} (ends : Ending bytes ending lines result) :
    ∀ line ∈ lines, newline ∉ lineText line := by
  intro line member
  apply clean_lineText
  cases ends with
  | broken => exact .inr ((splitLines_spec bytes).1 line member)
  | ended =>
      obtain ⟨text, clean, same | ⟨same, _⟩⟩ := Text.part_of_cutBehind member
      · exact .inr ⟨text, clean, same⟩
      · exact .inl (same ▸ clean)

private theorem Ending.run (ends : Ending (given items) ending lines result) (steady : ∀ item ∈ items, item.GoesOn)
    (sink : Sink) :
    Drain.run (items ++ ending) sink = ((sink.deliverAll lines).1, (sink.deliverAll lines).2.or result) := by
  obtain ⟨same, steadyReads⟩ := Reading.given_ofItems steady
  have clean : newline ∉ ({} : Drain).unfinished := fun member => nomatch member
  cases ends with
  | ended => rw [List.append_nil, run_of_steady steady, Option.or_none]
  | @broken failure rest other =>
      obtain ⟨left, reads⟩ := copyLeaving_append steadyReads clean sink (.failed failure :: ofItems rest)
      rw [List.nil_append, same] at reads
      rw [Drain.run, Reading.ofItems_append, Reading.ofItems_failed, ← copyLeaving_fst, reads]
      cases delivered : sink.deliverAll (splitLines (given items)).1 with
      | mk after failed =>
          cases failed with
          | some failure => rfl
          | none => simp only [copyLeaving, if_neg other, Option.none_or]

private theorem Ending.delivers (ends : Ending (given items) ending lines result) (steady : ∀ item ∈ items, item.GoesOn)
    {refusal : System.Failure} {vessel after : Vessel} {failed : Option System.Failure}
    (copies : Vessel.Copies refusal {} vessel (ofItems (items ++ ending)) after failed) :
    ∃ refused, Vessel.Delivers refusal vessel lines after refused ∧ failed = refused.or result := by
  obtain ⟨same, steadyReads⟩ := Reading.given_ofItems steady
  have clean : newline ∉ ({} : Drain).unfinished := fun member => nomatch member
  rw [Reading.ofItems_append] at copies
  have split := copies.split steadyReads clean
  rw [List.nil_append, same] at split
  cases ends with
  | ended =>
      rw [cutBehind_eq_append]
      rcases split with ⟨failure, rfl, delivers⟩ | ⟨next, delivers, copies⟩
      · exact ⟨_, delivers.cut _, rfl⟩
      · cases copies with
        | ended closes => exact ⟨failed, delivers.append closes, (Option.or_none).symm⟩
  | broken other =>
      rcases split with ⟨failure, rfl, delivers⟩ | ⟨next, delivers, copies⟩
      · exact ⟨_, delivers, rfl⟩
      · cases copies with
        | again repeated => exact absurd repeated other
        | broken => exact ⟨none, delivers, rfl⟩

/-- The bytes up to the last newline, as the drain sees them. -/
theorem exists_whole (bytes : Bytes) : ∃ whole tail, bytes = whole ++ tail ∧ Settled whole ∧ newline ∉ tail ∧
    (splitLines bytes).1.flatMap delivered = copied whole := by
  obtain ⟨single, clean⟩ := splitLines_spec bytes
  have split := splitLines_flatten single
  refine ⟨(splitLines bytes).1.flatten, (splitLines bytes).2, ?_, ?_, clean, ?_⟩
  · conv_lhs => rw [← Text.flatten_cutBehind newline bytes, cutBehind_eq_append, List.flatten_append]
    by_cases nothing : (splitLines bytes).2 = []
    · simp [receive, nothing]
    · simp [receive, nothing]
  · rw [← unfinished_eq_nil_iff, split]
  · rw [copied_eq, image, closedLines, split]
    simp

/-- A drain fills a sink that has a limit with the beginning of what it delivers to one that
has none: of a stream that ends, all of its bytes as a drain copies them, and of one that
fails, only those up to its last newline. It fails with the sink if the sink has too little
room and otherwise as the stream does, and it flushes once for each newline that was taken.
It makes no difference in what calls the sink takes the bytes or how it fails. -/
theorem run_of_room (bytes : Bytes) (items ending : List Reading) (sink : Sink) (room : Nat)
    (steady : ∀ item ∈ items, item.GoesOn) (arrived : given items = bytes)
    (ends : ending = [] ∨ ∃ failure rest, failure.kindOf ≠ .interrupted ∧ ending = .failed failure :: rest)
    (bounded : sink.room = some room) :
    let full := (run (items ++ ending) {}).1.taken
    let result := (run (items ++ ending) {}).2
    let ran := run (items ++ ending) sink
    (ending = [] → full = copied bytes ∧ result = none) ∧
      (∀ failure rest, ending = .failed failure :: rest → result = some failure ∧
        ∃ whole tail, bytes = whole ++ tail ∧ Settled whole ∧ newline ∉ tail ∧ full = copied whole) ∧
      ran.1.taken = sink.taken ++ full.take room ∧
      ran.2 = (if room < full.length then some Sink.full else result) ∧
      ran.1.flushes = sink.flushes + (full.take room).count newline ∧
      (∃ after, after.Of ran.1 ∧
        Vessel.Copies Sink.full {} ⟨sink.taken, room, sink.flushes⟩ (ofItems (items ++ ending)) after ran.2) ∧
      ∀ refusal after failed,
        Vessel.Copies refusal {} ⟨sink.taken, room, sink.flushes⟩ (ofItems (items ++ ending)) after failed →
          after.taken = ran.1.taken ∧ failed = (if room < full.length then some refusal else result) ∧
          after.flushes = ran.1.flushes := by
  subst arrived
  intro full result ran
  obtain ⟨lines, answer, source⟩ : ∃ lines answer, Ending (given items) ending lines answer := by
    rcases ends with rfl | ⟨failure, rest, other, rfl⟩
    · exact ⟨_, _, .ended⟩
    · exact ⟨_, _, .broken other⟩
  have unlimited : ({} : Sink).room = none := rfl
  obtain ⟨all, delivered, _, taken⟩ := Sink.deliverAll_of_unlimited unlimited lines
  have ideal : run (items ++ ending) {} = (all, answer) := by rw [source.run steady, delivered, Option.none_or]
  have fullEq : full = lines.flatMap Drain.delivered := (congrArg (·.1.taken) ideal).trans taken
  have resultEq : result = answer := congrArg Prod.snd ideal
  have outcome {refusal : System.Failure} {after : Vessel} {failed : Option System.Failure}
      (copies : Vessel.Copies refusal {} ⟨sink.taken, room, sink.flushes⟩ (ofItems (items ++ ending)) after failed) :
      after.taken = sink.taken ++ full.take room ∧ failed = (if room < full.length then some refusal else result) ∧
        after.flushes = sink.flushes + (full.take room).count newline := by
    obtain ⟨refused, delivers, rfl⟩ := source.delivers steady copies
    have filled := delivers.filled source.single
    rw [fullEq, resultEq]
    refine ⟨filled.taken, ?_, filled.flushes⟩
    rw [filled.failed]
    split <;> rfl
  -- The drain itself is one that copies to the vessel.
  have shows : Vessel.Of ⟨sink.taken, room, sink.flushes⟩ sink := ⟨rfl, bounded, rfl⟩
  obtain ⟨after, showsAfter, own⟩ := Vessel.exists_copies shows {} (ofItems (items ++ ending))
  obtain ⟨ownTaken, ownFailed, ownFlushes⟩ := outcome own
  rw [showsAfter.taken] at ownTaken
  rw [showsAfter.flushes] at ownFlushes
  refine ⟨?_, ?_, ownTaken, ownFailed, ownFlushes, ⟨after, showsAfter, own⟩, ?_⟩
  · rintro rfl
    rw [fullEq, resultEq]
    cases source
    exact ⟨by rw [copied_eq, image, closedLines_eq], rfl⟩
  · rintro failure rest rfl
    rw [fullEq, resultEq]
    cases source
    exact ⟨rfl, exists_whole (given items)⟩
  · intro refusal other failed copies
    obtain ⟨otherTaken, otherFailed, otherFlushes⟩ := outcome copies
    exact ⟨otherTaken.trans ownTaken.symm, otherFailed, otherFlushes.trans ownFlushes.symm⟩

/-- The stream fails within its third line, and the sink fails within the second one. -/
theorem run_of_room_cut :
    let items : List Reading := [.data (bytesOf "ab\nc"), .failed (.bare .interrupted), .data (bytesOf "d\nef")]
    let ending : List Reading := [.failed (.bare .other)]
    let sink : Sink := { room := some 4 }
    (∀ item ∈ items, item.GoesOn) ∧ given items = bytesOf "ab\ncd\nef" ∧
      (run (items ++ ending) {}).1.taken = bytesOf "ab\ncd\n" ∧ (run (items ++ ending) {}).2 = some (.bare .other) ∧
      (run (items ++ ending) sink).1.taken = bytesOf "ab\nc" ∧ (run (items ++ ending) sink).2 = some Sink.full ∧
      (run (items ++ ending) sink).1.flushes = 1 := by
  intro items ending sink
  have steady : ∀ item ∈ items, item.GoesOn := by
    simp [items, Reading.GoesOn, System.Failure.kindOf, bytesOf, Text.encode]
  have arrived : given items = bytesOf "ab\ncd\nef" := by decide
  have ends : ending = [] ∨ ∃ failure rest, failure.kindOf ≠ .interrupted ∧ ending = .failed failure :: rest :=
    .inr ⟨.bare .other, [], by decide, rfl⟩
  obtain ⟨_, _, taken, failed, flushes, _⟩ := run_of_room _ items ending sink 4 steady arrived ends rfl
  have full : (run (items ++ ending) {}).1.taken = bytesOf "ab\ncd\n" := by cbv
  have result : (run (items ++ ending) {}).2 = some (.bare .other) := by cbv
  rw [full] at taken failed flushes
  refine ⟨steady, arrived, full, result, ?_, ?_, ?_⟩
  · rw [taken]
    decide
  · rw [failed]
    decide
  · rw [flushes]
    decide

end Drain

end PipeShell
