import Mathlib
import PipeShell.Drain

/-! # Decoding

What the decoder makes of bytes in pieces. A line feed ends whatever was being read, and
no other bytes are read as one, so a stream can be cut at its newlines before it is
decoded. The form of a text is read as this text. -/

set_option autoImplicit false

namespace PipeShell.Text

/-! ## Line feeds -/

/-- No line feed comes of what is still to be read of a character. -/
def Owed.Clean (owed : Owed) : Prop :=
  newline < owed.low ∧ (1 ≤ owed.bits ∨ 0x80 < owed.low ∧ 1 < owed.count)

private theorem Owed.clean_of_ofLead {b : UInt8} {owed : Owed} (announced : Owed.ofLead b = some owed) :
    owed.Clean := by
  unfold Owed.ofLead at announced
  simp only [UInt8.lt_iff_toNat_lt, UInt8.le_iff_toNat_le, ← UInt8.toNat_inj] at announced
  simp only [Clean, newline, UInt8.lt_iff_toNat_lt]
  repeat' split at announced
  all_goals cases announced
  all_goals
    simp only [UInt8.reduceToNat] at *
    omega

namespace Decoder

/-- The decoder has not come across a line feed. -/
structure Clean (decoder : Decoder) : Prop where
  decoded : '\n' ∉ decoder.decoded
  owed : ∀ owed, decoder.owed = some owed → owed.Clean

theorem clean_start : start.Clean := ⟨fun member => (nomatch member), fun _ found => nomatch found⟩

theorem Clean.emit {decoder : Decoder} (clean : decoder.Clean) {c : Char} (other : c ≠ '\n') :
    (decoder.emit c).Clean where
  decoded := by simp [Decoder.emit, clean.decoded, other.symm]
  owed := fun _ found => nomatch found

theorem Clean.reject {decoder : Decoder} (clean : decoder.Clean) : decoder.reject.Clean where
  decoded := (clean.emit (by decide)).decoded
  owed := fun _ found => nomatch found

theorem ofNat_ne_newline {code : Nat} (other : code ≠ 10) : Char.ofNat code ≠ '\n' := by
  unfold Char.ofNat
  split
  · next valid =>
      intro same
      have value : (Char.ofNatAux code valid).toNat = 10 := by
        rw [same]
        rfl
      exact other (by simpa [Char.ofNatAux, Char.toNat, UInt32.toNat] using value)
  · decide

private theorem Clean.begin {decoder : Decoder} (clean : decoder.Clean) {b : UInt8} (other : b ≠ newline) :
    (decoder.begin b).Clean := by
  unfold Decoder.begin
  split
  · refine clean.emit (ofNat_ne_newline ?_)
    exact fun same => other (UInt8.toNat_inj.mp same)
  · split
    · next owed announced =>
        refine ⟨clean.decoded, ?_⟩
        intro later found
        cases found
        exact Owed.clean_of_ofLead announced
    · exact clean.reject

private theorem Clean.read {decoder : Decoder} (clean : decoder.Clean) {b : UInt8} (other : b ≠ newline) :
    (decoder.read b).Clean := by
  unfold Decoder.read
  split
  · exact clean.begin other
  · next owed found =>
      obtain ⟨low, bits⟩ := clean.owed owed found
      split
      · next within =>
          obtain ⟨above, _⟩ : owed.low ≤ b ∧ b ≤ owed.high := by simpa using within
          rw [UInt8.le_iff_toNat_le] at above
          simp only [UInt8.lt_iff_toNat_lt, UInt8.reduceToNat] at low bits
          dsimp only
          split
          · exact clean.emit (ofNat_ne_newline (by omega))
          · refine ⟨clean.decoded, ?_⟩
            intro later same
            cases same
            exact ⟨(by decide : newline < 0x80), .inl (by dsimp only; omega)⟩
      · exact clean.reject.begin other

private theorem Clean.close {decoder : Decoder} (clean : decoder.Clean) : decoder.close.Clean := by
  unfold Decoder.close
  split
  · exact clean
  · exact clean.reject

theorem Clean.foldl {decoder : Decoder} (clean : decoder.Clean) {bytes : Bytes} (without : newline ∉ bytes) :
    (bytes.foldl Decoder.read decoder).Clean := by
  induction bytes generalizing decoder with
  | nil => exact clean
  | cons b bytes ih =>
      obtain ⟨other, rest⟩ : b ≠ newline ∧ newline ∉ bytes := by
        simpa [eq_comm (a := newline)] using without
      exact ih (clean.read other) rest

/-- A line feed ends whatever was being read. -/
theorem Clean.read_newline {decoder : Decoder} (clean : decoder.Clean) :
    (decoder.read newline).decoded = '\n' :: decoder.close.decoded ∧ (decoder.read newline).owed = none := by
  unfold Decoder.read Decoder.close
  split
  · exact ⟨rfl, rfl⟩
  · next owed found =>
      have low := (clean.owed owed found).1
      have outside : ¬owed.low ≤ newline := UInt8.not_le.mpr low
      rw [if_neg (by simp [outside])]
      exact ⟨rfl, rfl⟩

/-! ## Decoding in pieces -/

def behind (decoder earlier : Decoder) : Decoder :=
  ⟨decoder.decoded ++ earlier.decoded, decoder.owed, decoder.malformed || earlier.malformed⟩

private theorem start_behind {decoder : Decoder} (idle : decoder.owed = none) : start.behind decoder = decoder := by
  simp [behind, start, ← idle]

private theorem begin_behind (decoder earlier : Decoder) (b : UInt8) :
    (decoder.behind earlier).begin b = (decoder.begin b).behind earlier := by
  unfold Decoder.begin
  split
  · rfl
  · split
    · rfl
    · rfl

private theorem read_behind (decoder earlier : Decoder) (b : UInt8) :
    (decoder.behind earlier).read b = (decoder.read b).behind earlier := by
  obtain ⟨decoded, owed, malformed⟩ := decoder
  cases owed with
  | none => exact begin_behind ⟨decoded, none, malformed⟩ earlier b
  | some owed =>
      simp only [Decoder.read, behind]
      split
      · split
        · rfl
        · rfl
      · exact begin_behind (reject ⟨decoded, some owed, malformed⟩) earlier b

private theorem foldl_read_behind (decoder earlier : Decoder) (bytes : Bytes) :
    bytes.foldl read (decoder.behind earlier) = (bytes.foldl read decoder).behind earlier := by
  induction bytes generalizing decoder with
  | nil => rfl
  | cons b bytes ih => rw [List.foldl_cons, read_behind, ih, List.foldl_cons]

private theorem close_behind (decoder earlier : Decoder) :
    (decoder.behind earlier).close = decoder.close.behind earlier := by
  obtain ⟨decoded, owed, malformed⟩ := decoder
  cases owed with
  | none => rfl
  | some owed => rfl

end Decoder

/-- Where no character is left open, the bytes can be cut before they are decoded. -/
theorem decodeLossy_append {front : Bytes} {decoder : Decoder} (read : front.foldl Decoder.read .start = decoder)
    (idle : decoder.owed = none) (back : Bytes) :
    decodeLossy (front ++ back) = decoder.decoded.reverse ++ decodeLossy back := by
  unfold decodeLossy Decoder.readAll
  rw [List.foldl_append, read, ← Decoder.start_behind idle, Decoder.foldl_read_behind, Decoder.close_behind]
  simp [Decoder.behind, Decoder.start]

theorem clean_decodeLossy {text : Bytes} (clean : newline ∉ text) : '\n' ∉ decodeLossy text := by
  rw [decodeLossy, List.mem_reverse]
  exact (Decoder.clean_start.foldl clean).close.decoded

/-- No character reaches over the end of a line. -/
theorem decodeLossy_line {text : Bytes} (clean : newline ∉ text) (rest : Bytes) :
    decodeLossy (text ++ newline :: rest) = decodeLossy text ++ '\n' :: decodeLossy rest := by
  obtain ⟨decoded, complete⟩ := (Decoder.clean_start.foldl clean).read_newline
  have read : (text ++ [newline]).foldl Decoder.read .start = (text.foldl Decoder.read .start).read newline := by
    rw [List.foldl_append]
    rfl
  rw [List.append_cons, decodeLossy_append read complete, decoded, List.reverse_cons, List.append_assoc]
  rfl

/-! ## Encoding and decoding again -/

theorem encode_append (front back : List Char) : encode (front ++ back) = encode front ++ encode back :=
  List.flatMap_append

theorem mem_encode {text : List Char} (member : newline ∈ encode text) : '\n' ∈ text := by
  obtain ⟨c, among, encoded⟩ := List.mem_flatMap.mp member
  have same : c.val.toNat = c.toNat := rfl
  have value : c.toNat = 10 := by
    simp only [String.utf8EncodeChar, same] at encoded
    repeat' split at encoded
    all_goals
      simp [newline, ← UInt8.toNat_inj] at encoded
      omega
  have linefeed : c = '\n' := Char.ext (UInt32.toNat_inj.mp value)
  exact linefeed ▸ among

private theorem Owed.ofLead_two {lead : Nat} (least : 0xC2 ≤ lead) (below : lead < 0xE0) :
    Owed.ofLead (.ofNat lead) = some ⟨1, 0x80, 0xBF, lead - 0xC0⟩ := by
  interval_cases lead <;> rfl

private theorem Owed.ofLead_three {lead : Nat} (least : 0xE0 ≤ lead) (below : lead < 0xF0) :
    Owed.ofLead (.ofNat lead) =
      some ⟨2, if lead = 0xE0 then 0xA0 else 0x80, if lead = 0xED then 0x9F else 0xBF, lead - 0xE0⟩ := by
  interval_cases lead <;> rfl

private theorem Owed.ofLead_four {lead : Nat} (least : 0xF0 ≤ lead) (below : lead < 0xF5) :
    Owed.ofLead (.ofNat lead) =
      some ⟨3, if lead = 0xF0 then 0x90 else 0x80, if lead = 0xF4 then 0x8F else 0xBF, lead - 0xF0⟩ := by
  interval_cases lead <;> rfl

namespace Decoder

variable {decoder : Decoder}

/-- A first byte announces a character. -/
theorem read_lead (idle : decoder.owed = none) {lead : Nat} {owed : Owed} (high : 0x80 ≤ lead) (byte : lead < 256)
    (announced : Owed.ofLead (.ofNat lead) = some owed) :
    decoder.read (.ofNat lead) = { decoder with owed := some owed } := by
  have outside : ¬UInt8.ofNat lead < 0x80 := by
    rw [UInt8.lt_iff_toNat_lt, UInt8.toNat_ofNat']
    simp only [UInt8.reduceToNat]
    omega
  simp only [read, idle, begin, if_neg outside, announced]

theorem tail_within {tail : Nat} (six : tail < 64) :
    UInt8.toNat 0x80 ≤ tail + 0x80 ∧ tail + 0x80 ≤ UInt8.toNat 0xBF := by
  simp only [UInt8.reduceToNat]
  omega

/-- Some first bytes leave less room to the second one. -/
theorem second_within {tail : Nat} (six : tail < 64) {short long : Prop} [Decidable short] [Decidable long]
    {low high : UInt8} (least : short → low.toNat ≤ tail + 0x80) (greatest : long → tail + 0x80 ≤ high.toNat) :
    UInt8.toNat (if short then low else 0x80) ≤ tail + 0x80 ∧
      tail + 0x80 ≤ UInt8.toNat (if long then high else 0xBF) := by
  obtain ⟨above, below⟩ := tail_within six
  constructor
  · split
    · next holds => exact least holds
    · exact above
  · split
    · next holds => exact greatest holds
    · exact below

/-- A byte that continues a character adds its last six bits. -/
theorem read_tail {count bits tail : Nat} {low high : UInt8}
    (found : decoder.owed = some ⟨count, low, high, bits⟩) (six : tail < 64)
    (within : low.toNat ≤ tail + 0x80 ∧ tail + 0x80 ≤ high.toNat) :
    decoder.read (.ofNat (tail + 0x80)) =
      if count ≤ 1 then decoder.emit (Char.ofNat (bits * 64 + tail))
      else { decoder with owed := some ⟨count - 1, 0x80, 0xBF, bits * 64 + tail⟩ } := by
  have value : (UInt8.ofNat (tail + 0x80)).toNat = tail + 0x80 := by
    rw [UInt8.toNat_ofNat']
    omega
  have fits : (decide (low ≤ .ofNat (tail + 0x80)) && decide (.ofNat (tail + 0x80) ≤ high)) = true := by
    simp only [UInt8.le_iff_toNat_le, value, within, decide_true, Bool.and_self]
  simp only [read, found, fits, if_true, value, Nat.add_sub_cancel]

private theorem foldl_read_one {v : Nat} (short : v ≤ 0x7F) :
    [UInt8.ofNat v].foldl read start = start.emit (Char.ofNat v) := by
  have value : (UInt8.ofNat v).toNat = v := by
    rw [UInt8.toNat_ofNat']
    omega
  have ascii : UInt8.ofNat v < 0x80 := by
    rw [UInt8.lt_iff_toNat_lt, value]
    simp only [UInt8.reduceToNat]
    omega
  simp only [List.foldl_cons, List.foldl_nil, read, start, begin, if_pos ascii, value]

private theorem foldl_read_two {v : Nat} (long : 0x7F < v) (short : v ≤ 0x7FF) :
    [UInt8.ofNat (v / 64 % 32 + 192), .ofNat (v % 64 + 128)].foldl read start = start.emit (Char.ofNat v) := by
  have lead : Owed.ofLead (.ofNat (v / 64 % 32 + 192)) = _ := Owed.ofLead_two (by omega) (by omega)
  have bits : (v / 64 % 32 + 192 - 192) * 64 + v % 64 = v := by omega
  rw [List.foldl_cons, read_lead rfl (by omega) (by omega) lead,
    List.foldl_cons, read_tail rfl (by omega) (tail_within (by omega)), if_pos (by omega), bits]
  rfl

/-- No shorter form and no surrogate: this bounds the second byte. -/
theorem foldl_read_three {v : Nat} (long : 0x7FF < v) (short : v ≤ 0xFFFF) (valid : v < 0xD800 ∨ 0xDFFF < v) :
    [UInt8.ofNat (v / 4096 % 16 + 224), .ofNat (v / 64 % 64 + 128), .ofNat (v % 64 + 128)].foldl read start =
      start.emit (Char.ofNat v) := by
  have lead : Owed.ofLead (.ofNat (v / 4096 % 16 + 224)) = _ := Owed.ofLead_three (by omega) (by omega)
  have least : v / 4096 % 16 + 224 = 0xE0 → UInt8.toNat 0xA0 ≤ v / 64 % 64 + 0x80 := by
    simp only [UInt8.reduceToNat]
    omega
  have greatest : v / 4096 % 16 + 224 = 0xED → v / 64 % 64 + 0x80 ≤ UInt8.toNat 0x9F := by
    simp only [UInt8.reduceToNat]
    omega
  have bits : ((v / 4096 % 16 + 224 - 224) * 64 + v / 64 % 64) * 64 + v % 64 = v := by omega
  rw [List.foldl_cons, read_lead rfl (by omega) (by omega) lead,
    List.foldl_cons, read_tail rfl (by omega) (second_within (by omega) least greatest), if_neg (by omega),
    List.foldl_cons, read_tail rfl (by omega) (tail_within (by omega)), if_pos (by omega), bits]
  rfl

private theorem foldl_read_four {v : Nat} (long : 0xFFFF < v) (valid : v < 0x110000) :
    [UInt8.ofNat (v / 262144 % 8 + 240), .ofNat (v / 4096 % 64 + 128), .ofNat (v / 64 % 64 + 128),
      .ofNat (v % 64 + 128)].foldl read start = start.emit (Char.ofNat v) := by
  have lead : Owed.ofLead (.ofNat (v / 262144 % 8 + 240)) = _ := Owed.ofLead_four (by omega) (by omega)
  have least : v / 262144 % 8 + 240 = 0xF0 → UInt8.toNat 0x90 ≤ v / 4096 % 64 + 0x80 := by
    simp only [UInt8.reduceToNat]
    omega
  have greatest : v / 262144 % 8 + 240 = 0xF4 → v / 4096 % 64 + 0x80 ≤ UInt8.toNat 0x8F := by
    simp only [UInt8.reduceToNat]
    omega
  have bits : (((v / 262144 % 8 + 240 - 240) * 64 + v / 4096 % 64) * 64 + v / 64 % 64) * 64 + v % 64 = v := by omega
  rw [List.foldl_cons, read_lead rfl (by omega) (by omega) lead,
    List.foldl_cons, read_tail rfl (by omega) (second_within (by omega) least greatest), if_neg (by omega),
    List.foldl_cons, read_tail rfl (by omega) (tail_within (by omega)), if_neg (by omega),
    List.foldl_cons, read_tail rfl (by omega) (tail_within (by omega)), if_pos (by omega), bits]
  rfl

/-- The form of a character is read as this character. -/
theorem foldl_read_utf8EncodeChar (c : Char) : (String.utf8EncodeChar c).foldl read start = start.emit c := by
  have valid : c.toNat < 0xD800 ∨ 0xDFFF < c.toNat ∧ c.toNat < 0x110000 := c.valid
  have code : Char.ofNat c.toNat = c := Char.ofNat_toNat c
  have same : c.val.toNat = c.toNat := rfl
  simp only [String.utf8EncodeChar, same]
  split
  · next short => rw [foldl_read_one short, code]
  · next one =>
    split
    · next short => rw [foldl_read_two (by omega) short, code]
    · next two =>
      split
      · next short => rw [foldl_read_three (by omega) short (by omega), code]
      · next three => rw [foldl_read_four (by omega) (by omega), code]

end Decoder

theorem decodeLossy_encode (text : List Char) : decodeLossy (encode text) = text := by
  induction text with
  | nil => rfl
  | cons c text ih =>
      rw [encode, List.flatMap_cons, decodeLossy_append (Decoder.foldl_read_utf8EncodeChar c) rfl, ← encode, ih]
      rfl

end PipeShell.Text
