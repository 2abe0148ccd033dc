import TagOrder.Text.Utf8

/-!
# Texts as octets and back

Every text is read back from its octets (`Utf8.decode_encode`). The four lengths that a character
takes are told apart in one place, `Utf8.exists_lead`, which says what its first octet announces and
that the others complete it. The other way round, octets that complete what their first one
announces are those of a character (`Utf8.encodeChar_of_completed`), so nothing else is read as a
text (`Utf8.decode_eq_ok_iff`).
-/

namespace TagOrder.Utf8

/-- A small number keeps its value as an octet. -/
theorem toNat_toUInt8 {value : Nat} (small : value < 0x100) : value.toUInt8.toNat = value := by
  rw [Nat.toUInt8_eq, UInt8.toNat_ofNat', Nat.mod_eq_of_lt small]

/-- The octet of six bits of a code point. -/
theorem toNat_tail (bits : Nat) : (0x80 + bits % 0x40).toUInt8.toNat = 0x80 + bits % 0x40 :=
  toNat_toUInt8 (by omega)

/-- An octet within the bounds completes six more bits of a code point. -/
theorem readTails_tail {code low high taken tails : Nat} {rest : List UInt8}
    (above : low ≤ 0x80 + code % 0x40) (below : 0x80 + code % 0x40 ≤ high) :
    readTails (code / 0x40) low high taken (tails + 1) ((0x80 + code % 0x40).toUInt8 :: rest) =
      readTails code 0x80 0xBF (taken + 1) tails rest := by
  have whole : 0x40 * (code / 0x40) + (0x80 + code % 0x40 - 0x80) = code := by omega
  rw [readTails, toNat_tail, if_pos, whole]
  rw [Bool.and_eq_true, decide_eq_true_iff, decide_eq_true_iff]
  exact ⟨above, below⟩

/-- The octets after the second one may have any six bits. -/
theorem readTails_tail_free (code taken tails : Nat) (rest : List UInt8) :
    readTails (code / 0x40) 0x80 0xBF taken (tails + 1) ((0x80 + code % 0x40).toUInt8 :: rest) =
      readTails code 0x80 0xBF (taken + 1) tails rest :=
  readTails_tail (by omega) (by omega)

/-- What announces a character of two octets. -/
theorem lead?_two {code : Nat} (above : 0x80 ≤ code) (below : code < 0x800) :
    lead? (0xC0 + code / 0x40).toUInt8 = some { bits := code / 0x40, tails := 1 } := by
  unfold lead?
  rw [toNat_toUInt8 (by omega)]
  dsimp only
  rw [if_neg (by omega), if_neg (by omega), if_pos (by omega), Nat.add_sub_cancel_left]

/-- What announces a character of three octets lets its second octet pass. -/
theorem lead?_three {code : Nat} (above : 0x800 ≤ code) (below : code < 0x10000)
    (valid : code < 0xD800 ∨ 0xDFFF < code) :
    ∃ low high, lead? (0xE0 + code / 0x1000).toUInt8 = some ⟨code / 0x1000, 2, low, high⟩ ∧
      low ≤ 0x80 + code / 0x40 % 0x40 ∧ 0x80 + code / 0x40 % 0x40 ≤ high := by
  unfold lead?
  rw [toNat_toUInt8 (by omega)]
  dsimp only
  rw [if_neg (by omega), if_neg (by omega), if_neg (by omega)]
  by_cases least : 0xE0 + code / 0x1000 = 0xE0
  · rw [if_pos least, show code / 0x1000 = 0 by omega]
    exact ⟨0xA0, 0xBF, rfl, by omega, by omega⟩
  by_cases surrogates : 0xE0 + code / 0x1000 = 0xED
  · rw [if_neg least, if_pos surrogates, show code / 0x1000 = 0xD by omega]
    exact ⟨0x80, 0x9F, rfl, by omega, by omega⟩
  · rw [if_neg least, if_neg surrogates, if_pos (by omega), Nat.add_sub_cancel_left]
    exact ⟨0x80, 0xBF, rfl, by omega, by omega⟩

/-- What announces a character of four octets lets its second octet pass. -/
theorem lead?_four {code : Nat} (above : 0x10000 ≤ code) (below : code < 0x110000) :
    ∃ low high, lead? (0xF0 + code / 0x40000).toUInt8 = some ⟨code / 0x40000, 3, low, high⟩ ∧
      low ≤ 0x80 + code / 0x1000 % 0x40 ∧ 0x80 + code / 0x1000 % 0x40 ≤ high := by
  unfold lead?
  rw [toNat_toUInt8 (by omega)]
  dsimp only
  rw [if_neg (by omega), if_neg (by omega), if_neg (by omega), if_neg (by omega),
    if_neg (by omega), if_neg (by omega)]
  by_cases least : 0xF0 + code / 0x40000 = 0xF0
  · rw [if_pos least, show code / 0x40000 = 0 by omega]
    exact ⟨0x90, 0xBF, rfl, by omega, by omega⟩
  by_cases last : 0xF0 + code / 0x40000 = 0xF4
  · rw [if_neg least, if_neg (by omega), if_pos last, show code / 0x40000 = 4 by omega]
    exact ⟨0x80, 0x8F, rfl, by omega, by omega⟩
  · rw [if_neg least, if_pos (by omega), Nat.add_sub_cancel_left]
    exact ⟨0x80, 0xBF, rfl, by omega, by omega⟩

/-- The first octet of a character announces what the others complete. -/
theorem exists_lead (c : Char) (rest : List UInt8) :
    ∃ first tails lead, encodeChar c = first :: tails ∧ lead? first = some lead ∧
      readTails lead.bits lead.low lead.high 1 lead.tails (tails ++ rest) =
        .ok (c.toNat, rest) := by
  have valid : c.toNat < 0xD800 ∨ 0xDFFF < c.toNat ∧ c.toNat < 0x110000 := c.valid
  unfold encodeChar
  generalize c.toNat = code at valid
  dsimp only
  have second : code / 0x1000 = code / 0x40 / 0x40 := by omega
  split
  · have first : code.toUInt8.toNat = code := toNat_toUInt8 (by omega)
    refine ⟨_, _, { bits := code, tails := 0 }, rfl, ?_, rfl⟩
    unfold lead?
    rw [first]
    exact if_pos ‹_›
  split
  · refine ⟨_, _, _, rfl, lead?_two (by omega) (by omega), ?_⟩
    exact readTails_tail_free code 1 0 rest
  split
  · obtain ⟨low, high, announced, above, below⟩ :=
      lead?_three (by omega : 0x800 ≤ code) (by omega) (by omega)
    refine ⟨_, _, _, rfl, announced, ?_⟩
    dsimp only
    rw [second]
    exact (readTails_tail above below).trans (readTails_tail_free code 2 0 rest)
  · obtain ⟨low, high, announced, above, below⟩ :=
      lead?_four (by omega : 0x10000 ≤ code) (by omega)
    have first : code / 0x40000 = code / 0x1000 / 0x40 := by omega
    refine ⟨_, _, _, rfl, announced, ?_⟩
    dsimp only
    rw [first]
    refine (readTails_tail above below).trans ?_
    rw [second]
    exact (readTails_tail_free (code / 0x40) 2 1 _).trans (readTails_tail_free code 3 0 rest)

/-- A character is read off the front of octets. -/
theorem decodeFrom_encodeChar (c : Char) (fuel start : Nat) (rest : List UInt8) :
    ∃ next, decodeFrom (fuel + 1) start (encodeChar c ++ rest) =
      (decodeFrom fuel next rest).map (c :: ·) := by
  obtain ⟨first, tails, lead, octets, announced, completed⟩ := exists_lead c rest
  refine ⟨start + 1 + lead.tails, ?_⟩
  rw [octets, List.cons_append, decodeFrom, announced]
  dsimp only
  rw [completed]
  dsimp only
  rw [Char.ofNat_toNat]
  cases decodeFrom fuel (start + 1 + lead.tails) rest <;> rfl

/-- A text is read off its octets wherever there are steps enough. -/
theorem decodeFrom_encode (text : Text) {fuel : Nat} (start : Nat)
    (enough : (encode text).length ≤ fuel) : decodeFrom fuel start (encode text) = .ok text := by
  induction text generalizing fuel start with
  | nil => cases fuel <;> rfl
  | cons c rest ih =>
    have octets : encode (c :: rest) = encodeChar c ++ encode rest := List.flatMap_cons
    obtain ⟨first, tails, -, some, -⟩ := exists_lead c []
    rw [octets, List.length_append, some, List.length_cons] at enough
    obtain ⟨fuel, rfl⟩ : ∃ less, fuel = less + 1 := ⟨fuel - 1, by omega⟩
    obtain ⟨next, read⟩ := decodeFrom_encodeChar c fuel start (encode rest)
    rw [octets, read, ih next (by omega)]
    rfl

/-- Every text is read back from its octets. -/
theorem decode_encode (text : Text) : decode (encode text) = .ok text :=
  decodeFrom_encode text 0 (Nat.le_refl _)

/-- What a first octet announces: its bits with the mark of the length, and the bounds that leave
out the second octets of characters which a shorter sequence or no sequence stands for. -/
theorem of_lead? {octet : UInt8} {lead : Lead} (announced : lead? octet = some lead) :
    octet.toNat = lead.bits ∧ lead.tails = 0 ∧ lead.bits < 0x80 ∨
    0x80 ≤ lead.low ∧ lead.high ≤ 0xBF ∧
      (octet.toNat = 0xC0 + lead.bits ∧ lead.tails = 1 ∧ 2 ≤ lead.bits ∧ lead.bits < 0x20 ∨
      octet.toNat = 0xE0 + lead.bits ∧ lead.tails = 2 ∧ lead.bits < 0x10 ∧
        (lead.bits = 0 → 0xA0 ≤ lead.low) ∧ (lead.bits = 0xD → lead.high ≤ 0x9F) ∨
      octet.toNat = 0xF0 + lead.bits ∧ lead.tails = 3 ∧ lead.bits < 5 ∧
        (lead.bits = 0 → 0x90 ≤ lead.low) ∧ (lead.bits = 4 → lead.high ≤ 0x8F)) := by
  unfold lead? at announced
  generalize octet.toNat = code at announced ⊢
  dsimp only at announced
  split at announced
  · obtain rfl := Option.some.inj announced
    dsimp only
    omega
  split at announced
  · cases announced
  iterate 7
    split at announced
    · obtain rfl := Option.some.inj announced
      dsimp only
      omega
  cases announced

/-- An octet that continues a character gives six more bits of its code point. -/
theorem of_readTails {bits low high taken tails code : Nat} {octets rest : List UInt8}
    (within : 0x80 ≤ low ∧ high ≤ 0xBF)
    (completed : readTails bits low high taken (tails + 1) octets = .ok (code, rest)) :
    ∃ more others, more < 0x40 ∧ low ≤ 0x80 + more ∧ 0x80 + more ≤ high ∧
      octets = (0x80 + more).toUInt8 :: others ∧
      readTails (0x40 * bits + more) 0x80 0xBF (taken + 1) tails others = .ok (code, rest) := by
  cases octets with
  | nil => cases completed
  | cons octet others =>
    rw [readTails] at completed
    split at completed
    · rename_i bounds
      rw [Bool.and_eq_true, decide_eq_true_iff, decide_eq_true_iff] at bounds
      refine ⟨octet.toNat - 0x80, others, by omega, by omega, by omega, ?_, completed⟩
      have same : octet.toNat.toUInt8 = octet :=
        UInt8.toNat_inj.mp (toNat_toUInt8 octet.toNat_lt)
      rw [Nat.add_sub_cancel' (by omega), same]
    · cases completed

/-- An octet is told by its number. -/
theorem eq_toUInt8 {octet : UInt8} {value : Nat} (number : octet.toNat = value) :
    octet = value.toUInt8 := by
  subst number
  exact (UInt8.toNat_inj.mp (toNat_toUInt8 octet.toNat_lt)).symm

/-- The number of a character that has a code point. -/
theorem toNat_ofNat {code : Nat} (valid : code < 0xD800 ∨ 0xDFFF < code ∧ code < 0x110000) :
    (Char.ofNat code).toNat = code := by
  rw [Char.ofNat, dif_pos valid]
  rfl

/-- A code point that the tails of a character complete has these octets. -/
theorem encodeChar_of_completed {octet : UInt8} {lead : Lead} {code : Nat}
    {octets rest : List UInt8} (announced : lead? octet = some lead)
    (completed : readTails lead.bits lead.low lead.high 1 lead.tails octets = .ok (code, rest)) :
    octet :: octets = encodeChar (Char.ofNat code) ++ rest := by
  rcases of_lead? announced with ⟨first, tails, small⟩ | ⟨above, below, longer⟩
  · rw [tails] at completed
    obtain ⟨rfl, rfl⟩ := Prod.mk.inj (Except.ok.inj completed)
    unfold encodeChar
    rw [toNat_ofNat (by omega), if_pos small, eq_toUInt8 first]
    rfl
  have free : 0x80 ≤ 0x80 ∧ 0xBF ≤ 0xBF := ⟨Nat.le_refl _, Nat.le_refl _⟩
  rcases longer with ⟨first, tails, least, most⟩ | ⟨first, tails, most, least, surrogates⟩ |
      ⟨first, tails, most, least, last⟩
  · rw [tails] at completed
    obtain ⟨one, others, oneSmall, -, -, rfl, ended⟩ := of_readTails ⟨above, below⟩ completed
    obtain ⟨rfl, rfl⟩ := Prod.mk.inj (Except.ok.inj ended)
    unfold encodeChar
    rw [toNat_ofNat (by omega)]
    dsimp only
    rw [if_neg (by omega), if_pos (by omega), eq_toUInt8 first,
      show (0x40 * lead.bits + one) / 0x40 = lead.bits by omega,
      show (0x40 * lead.bits + one) % 0x40 = one by omega]
    rfl
  · rw [tails] at completed
    obtain ⟨one, _, oneSmall, oneAbove, oneBelow, rfl, second⟩ :=
      of_readTails ⟨above, below⟩ completed
    obtain ⟨two, others, twoSmall, -, -, rfl, ended⟩ := of_readTails free second
    obtain ⟨rfl, rfl⟩ := Prod.mk.inj (Except.ok.inj ended)
    generalize wholeIs : 0x40 * (0x40 * lead.bits + one) + two = whole
    unfold encodeChar
    rw [toNat_ofNat (by omega)]
    dsimp only
    rw [if_neg (by omega), if_neg (by omega), if_pos (by omega), eq_toUInt8 first,
      show whole / 0x1000 = lead.bits by omega, show whole / 0x40 % 0x40 = one by omega,
      show whole % 0x40 = two by omega]
    rfl
  · rw [tails] at completed
    obtain ⟨one, _, oneSmall, oneAbove, oneBelow, rfl, second⟩ :=
      of_readTails ⟨above, below⟩ completed
    obtain ⟨two, _, twoSmall, -, -, rfl, third⟩ := of_readTails free second
    obtain ⟨three, others, threeSmall, -, -, rfl, ended⟩ := of_readTails free third
    obtain ⟨rfl, rfl⟩ := Prod.mk.inj (Except.ok.inj ended)
    generalize wholeIs : 0x40 * (0x40 * (0x40 * lead.bits + one) + two) + three = whole
    unfold encodeChar
    rw [toNat_ofNat (by omega)]
    dsimp only
    rw [if_neg (by omega), if_neg (by omega), if_neg (by omega), eq_toUInt8 first,
      show whole / 0x40000 = lead.bits by omega, show whole / 0x1000 % 0x40 = one by omega,
      show whole / 0x40 % 0x40 = two by omega, show whole % 0x40 = three by omega]
    rfl

/-- Octets that are read are those of the text that is read. -/
theorem encode_of_decodeFrom {fuel start : Nat} {octets : List UInt8} {text : Text}
    (enough : octets.length ≤ fuel) (read : decodeFrom fuel start octets = .ok text) :
    encode text = octets := by
  induction fuel generalizing start octets text with
  | zero =>
    obtain rfl := List.eq_nil_of_length_eq_zero (Nat.le_zero.mp enough)
    obtain rfl := Except.ok.inj read
    rfl
  | succ fuel ih =>
    cases octets with
    | nil =>
      obtain rfl := Except.ok.inj read
      rfl
    | cons octet rest =>
      rw [decodeFrom] at read
      split at read
      · cases read
      rename_i lead announced
      split at read
      · cases read
      rename_i code after completed
      have whole := encodeChar_of_completed announced completed
      split at read
      · rename_i others decoded
        obtain rfl := Except.ok.inj read
        have shorter := congrArg List.length whole
        obtain ⟨first, tails, -, some, -⟩ := exists_lead (Char.ofNat code) []
        rw [some, List.length_append, List.length_cons, List.length_cons] at shorter
        rw [List.length_cons] at enough
        have others := ih (by omega) decoded
        rw [whole, ← others]
        exact List.flatMap_cons
      · cases read

/-- Octets are read as a text just where they are the octets of the text. -/
theorem decode_eq_ok_iff {octets : List UInt8} {text : Text} :
    decode octets = .ok text ↔ octets = encode text := by
  constructor
  · exact fun read => (encode_of_decodeFrom (Nat.le_refl _) read).symm
  · rintro rfl
    exact decode_encode text

end TagOrder.Utf8
