import QueryBook.Xml.Entity

namespace QueryBook.Xml

/-!
# Spellings of a text

In a document a character stands for itself or is written as an entity: by one of five names, or by
its number in decimal or hexadecimal digits. A text can be spelled in many ways, and expanding any
of them gives it back.

* `IsNumeral`, `EntityName` — the names of a character, as they stand between `&` and `;`.
* `Spells` — the spellings of a text in which a delimiter never stands for itself.
* `Spells.expand`, `Spells.expand_append` — their expansion, alone and before more text.
-/

/-- The five names. -/
def characterNames : List (List Char × Char) :=
  [(['l', 't'], '<'), (['g', 't'], '>'), (['a', 'm', 'p'], '&'), (['a', 'p', 'o', 's'], '\''),
    (['q', 'u', 'o', 't'], '"')]

/-- A digit of a value; letters count in either case. -/
def IsDigit (base : Nat) (c : Char) (value : Nat) : Prop :=
  value < base ∧ (c = Nat.digitChar value ∨ c = (Nat.digitChar value).toUpper)

/-- Digits that stand for a number; zeros may lead. -/
inductive IsNumeral (base : Nat) : List Char → Nat → Prop
  | digit {c : Char} {value : Nat} : IsDigit base c value → IsNumeral base [c] value
  | snoc {digits : List Char} {n : Nat} {c : Char} {value : Nat} :
      IsNumeral base digits n → IsDigit base c value →
      IsNumeral base (digits ++ [c]) (base * n + value)

/-- The names of a character. The null character has none. -/
inductive EntityName : List Char → Char → Prop
  | named {name : List Char} {c : Char} : (name, c) ∈ characterNames → EntityName name c
  | decimal {digits : List Char} {c : Char} :
      IsNumeral 10 digits c.toNat → c ≠ '\x00' → EntityName ('#' :: digits) c
  | hexadecimal {digits : List Char} {c : Char} :
      IsNumeral 16 digits c.toNat → c ≠ '\x00' → EntityName ('#' :: 'x' :: digits) c

/-- The spellings of a text in which a delimiter never stands for itself. -/
inductive Spells (delimiter : Char) : List Char → List Char → Prop
  | nil : Spells delimiter [] []
  | plain {c : Char} {cs raw : List Char} :
      c ≠ '&' → c ≠ delimiter → Spells delimiter cs raw → Spells delimiter (c :: cs) (c :: raw)
  | entity {c : Char} {name cs raw : List Char} :
      EntityName name c → Spells delimiter cs raw →
      Spells delimiter (c :: cs) ('&' :: name ++ ';' :: raw)

/-- A text without the delimiter and without ampersands is a spelling of itself. -/
theorem Spells.self {delimiter : Char} {cs : List Char} (hamp : '&' ∉ cs)
    (hdelimiter : delimiter ∉ cs) : Spells delimiter cs cs := by
  induction cs with
  | nil => exact .nil
  | cons c cs ih =>
    rw [List.mem_cons, not_or] at hamp hdelimiter
    exact .plain (Ne.symm hamp.1) (Ne.symm hdelimiter.1) (ih hamp.2 hdelimiter.2)

/-! ### Numbers -/

/-- A digit is read as its value. -/
theorem IsDigit.digitValue?_eq {base value : Nat} {c : Char} (hbase : base ≤ 16)
    (h : IsDigit base c value) : digitValue? base c = some value := by
  obtain ⟨hlt, hc⟩ := h
  -- A smaller base than sixteen only leaves some digits out.
  have hall : ∀ v < 16, digitValue? 16 (Nat.digitChar v) = some v ∧
      digitValue? 16 (Nat.digitChar v).toUpper = some v := by decide
  obtain ⟨hlower, hupper⟩ := hall value (Nat.lt_of_lt_of_le hlt hbase)
  have hlarge : digitValue? 16 c = some value := by
    rcases hc with rfl | rfl
    · exact hlower
    · exact hupper
  simp only [digitValue?, Option.filter_eq_some_iff, decide_eq_true_eq] at hlarge ⊢
  exact ⟨hlarge.1, hlt⟩

/-- Digits are letters or decimal digits. -/
theorem IsDigit.isAlphanum {base value : Nat} {c : Char} (hbase : base ≤ 16)
    (h : IsDigit base c value) : c.isAlphanum = true := by
  obtain ⟨hlt, hc⟩ := h
  have hall : ∀ v < 16, (Nat.digitChar v).isAlphanum = true ∧
      (Nat.digitChar v).toUpper.isAlphanum = true := by decide
  obtain ⟨hlower, hupper⟩ := hall value (Nat.lt_of_lt_of_le hlt hbase)
  rcases hc with rfl | rfl
  · exact hlower
  · exact hupper

/-- Digits are read one part behind the other. -/
theorem readDigits_append (base n : Nat) (cs ds : List Char) :
    readDigits base n (cs ++ ds) = (readDigits base n cs).bind (readDigits base · ds) := by
  induction cs generalizing n with
  | nil => rfl
  | cons c cs ih =>
    rw [List.cons_append, readDigits, readDigits]
    cases digitValue? base c with
    | none => rfl
    | some d =>
      by_cases hlarge : codeLimit < base * n + d
      · simp only [if_pos hlarge]
        rfl
      · simp only [if_neg hlarge]
        exact ih (base * n + d)

/-- One more digit adds a place. -/
theorem readDigits_singleton {base n value : Nat} {c : Char} (hbase : base ≤ 16)
    (hc : IsDigit base c value) (hlimit : base * n + value ≤ codeLimit) :
    readDigits base n [c] = .ok (base * n + value) := by
  rw [readDigits, hc.digitValue?_eq hbase]
  exact if_neg (Nat.not_lt.2 hlimit)

namespace IsNumeral

variable {base n : Nat} {digits : List Char}

/-- A numeral is read as the number that it stands for. -/
theorem readDigits_eq (h : IsNumeral base digits n) (hpos : 0 < base) (hbase : base ≤ 16)
    (hlimit : n ≤ codeLimit) : readDigits base 0 digits = .ok n := by
  induction h with
  | digit hc =>
    have hread := readDigits_singleton (n := 0) hbase hc (by rwa [Nat.mul_zero, Nat.zero_add])
    rwa [Nat.mul_zero, Nat.zero_add] at hread
  | @snoc digits n c value _ hc ih =>
    have hn : n ≤ codeLimit :=
      calc n ≤ base * n := Nat.le_mul_of_pos_left n hpos
        _ ≤ base * n + value := Nat.le_add_right _ value
        _ ≤ codeLimit := hlimit
    rw [readDigits_append, ih hn]
    exact readDigits_singleton hbase hc hlimit

/-- A numeral has digits only. -/
theorem exists_isDigit (h : IsNumeral base digits n) :
    ∀ c ∈ digits, ∃ value, IsDigit base c value := by
  induction h with
  | digit hc =>
    intro c hmem
    rw [List.mem_singleton.1 hmem]
    exact ⟨_, hc⟩
  | snoc _ hc ih =>
    intro c hmem
    rcases List.mem_append.1 hmem with hmem | hmem
    · exact ih c hmem
    · rw [List.mem_singleton.1 hmem]
      exact ⟨_, hc⟩

theorem ne_nil (h : IsNumeral base digits n) : digits ≠ [] := by
  cases h with
  | digit _ => simp
  | snoc _ _ => simp

end IsNumeral

/-- A sign is no digit, and neither is the mark of hexadecimal digits in base ten. -/
theorem IsDigit.ne_sign {base value : Nat} {c : Char} (hbase : base ≤ 16)
    (h : IsDigit base c value) : ¬ (c = '+' ∨ c = '-') := by
  have halnum := h.isAlphanum hbase
  rintro (rfl | rfl)
  · exact absurd halnum (by decide)
  · exact absurd halnum (by decide)

/-- No decimal digit is the mark of a hexadecimal number. -/
theorem IsDigit.ne_mark {value : Nat} {c : Char} (h : IsDigit 10 c value) : c ≠ 'x' := by
  rintro rfl
  have hnone : digitValue? 10 'x' = none := by decide
  exact absurd (hnone.symm.trans (h.digitValue?_eq (by decide))) (by simp)

/-- A decimal code is read as its number. -/
theorem readCode_decimal {digits : List Char} {n : Nat} (h : IsNumeral 10 digits n)
    (hlimit : n ≤ codeLimit) : readCode digits = .ok n := by
  obtain ⟨c, rest, rfl⟩ := List.exists_cons_of_ne_nil h.ne_nil
  obtain ⟨value, hc⟩ := h.exists_isDigit c List.mem_cons_self
  rw [← h.readDigits_eq (by decide) (by decide) hlimit]
  simp [readCode, hc.ne_mark, hc.ne_sign (by decide)]

/-- A hexadecimal code is read as its number. -/
theorem readCode_hexadecimal {digits : List Char} {n : Nat} (h : IsNumeral 16 digits n)
    (hlimit : n ≤ codeLimit) : readCode ('x' :: digits) = .ok n := by
  obtain ⟨c, rest, rfl⟩ := List.exists_cons_of_ne_nil h.ne_nil
  obtain ⟨value, hc⟩ := h.exists_isDigit c List.mem_cons_self
  rw [← h.readDigits_eq (by decide) (by decide) hlimit]
  simp [readCode, hc.ne_sign (by decide)]

/-- No character is beyond the largest code. -/
theorem toNat_le_codeLimit (c : Char) : c.toNat ≤ codeLimit := by
  have := c.val.toNat_lt
  simp only [codeLimit, UInt32.size]
  exact Nat.le_sub_one_of_lt this

/-- The character of its own number. -/
theorem characterOf_eq {code : List Char} {c : Char} (h : readCode code = .ok c.toNat)
    (hc : c ≠ '\x00') : characterOf code = .ok c := by
  have hzero : c.toNat ≠ 0 := fun he => hc (Char.toNat_inj.1 he)
  rw [characterOf, h]
  have hvalid : c.toNat.isValidChar := c.valid
  simp only [bind, Except.bind, if_neg hzero, if_pos hvalid, Char.ofNat_toNat]

/-! ### Entities -/

/-- The character of an entity, unless its name is faulty. -/
def entityCharacter? (name : List Char) : Option Char :=
  match name with
  | '#' :: code => (characterOf code).toOption
  | _ => namedEntity? name

namespace EntityName

variable {name : List Char} {c : Char}

/-- A name of a character is read as the character. -/
theorem entityCharacter?_eq (h : EntityName name c) : entityCharacter? name = some c := by
  cases h with
  | named hmem =>
    have hall : ∀ p ∈ characterNames, entityCharacter? p.1 = some p.2 := by decide
    exact hall _ hmem
  | decimal hn hc =>
    have hcode := readCode_decimal hn (toNat_le_codeLimit c)
    simp only [entityCharacter?, characterOf_eq hcode hc, Except.toOption]
  | hexadecimal hn hc =>
    have hcode := readCode_hexadecimal hn (toNat_le_codeLimit c)
    simp only [entityCharacter?, characterOf_eq hcode hc, Except.toOption]

/-- The names of characters have letters, digits and number signs only. -/
theorem chars (h : EntityName name c) : ∀ d ∈ name, d = '#' ∨ d.isAlphanum = true := by
  have hnumeral : ∀ {base n : Nat} {digits : List Char}, base ≤ 16 → IsNumeral base digits n →
      ∀ d ∈ digits, d = '#' ∨ d.isAlphanum = true := by
    intro base n digits hbase hn d hd
    obtain ⟨value, hdigit⟩ := hn.exists_isDigit d hd
    exact .inr (hdigit.isAlphanum hbase)
  cases h with
  | named hmem =>
    have hall : ∀ p ∈ characterNames, ∀ d ∈ p.1, d = '#' ∨ d.isAlphanum = true := by
      simp [characterNames]
    exact hall _ hmem
  | decimal hn _ => exact List.forall_mem_cons.2 ⟨.inl rfl, hnumeral (by decide) hn⟩
  | hexadecimal hn _ =>
    exact List.forall_mem_cons.2
      ⟨.inl rfl, List.forall_mem_cons.2 ⟨.inr (by decide), hnumeral (by decide) hn⟩⟩

/-- The first semicolon behind a name ends it. -/
theorem takeWhile_eq (h : EntityName name c) (rest : List Char) :
    (name ++ ';' :: rest).takeWhile (fun d => d ≠ ';' && d ≠ '&') = name := by
  have hall : ∀ d ∈ name, (d ≠ ';' && d ≠ '&') = true := by
    intro d hd
    rcases h.chars d hd with rfl | halnum
    · decide
    · have hsemicolon : d ≠ ';' := by rintro rfl; exact absurd halnum (by decide)
      have hamp : d ≠ '&' := by rintro rfl; exact absurd halnum (by decide)
      simp [hsemicolon, hamp]
  rw [List.takeWhile_append_of_pos hall]
  simp

end EntityName

/-- Characters that are to be skipped are left out. -/
theorem expandFrom_skip (total n : Nat) (cs : List Char) :
    expandFrom total n cs = expandFrom total 0 (cs.drop n) := by
  induction cs generalizing n with
  | nil => cases n <;> rfl
  | cons c cs ih =>
    cases n with
    | zero => rfl
    | succ n => rw [expandFrom, ih, List.drop_succ_cons]

/-- A result with a character in front comes from one without it. -/
theorem map_cons_eq_ok {ε : Type} {x : Except ε (List Char)} {c : Char} {ds : List Char} :
    x.map (c :: ·) = .ok ds ↔ ∃ es, x = .ok es ∧ ds = c :: es := by
  cases x with
  | error fault => simp [Except.map]
  | ok es => simp [Except.map, eq_comm]

/-- What follows an ampersand is expanded if it begins with a proper name and a semicolon, and what
    follows these is expanded. -/
theorem expandFrom_amp_eq_ok {total : Nat} {cs ds : List Char} :
    expandFrom total 0 ('&' :: cs) = .ok ds ↔
      let name := cs.takeWhile fun d => d ≠ ';' && d ≠ '&'
      (cs.drop name.length).head? = some ';' ∧
        ∃ c es, entityCharacter? name = some c ∧
          expandFrom total 0 (cs.drop (name.length + 1)) = .ok es ∧ ds = c :: es := by
  rw [expandFrom, if_neg (by simp)]
  generalize cs.takeWhile (fun d => d ≠ ';' && d ≠ '&') = name
  -- An entity that does not end is refused, whatever its name is.
  by_cases hend : (cs.drop name.length).head? = some ';'
  · rw [if_neg (not_not_intro hend)]
    simp only [hend, true_and]
    split
    · next code =>
      cases hcode : characterOf code with
      | error fault => simp [entityCharacter?, hcode, Except.toOption]
      | ok c =>
        simp [entityCharacter?, hcode, Except.toOption, map_cons_eq_ok,
          expandFrom_skip total (_ + 1) cs]
    · next hcode =>
      have hname : entityCharacter? name = namedEntity? name := by
        unfold entityCharacter?
        split
        · next code => exact absurd rfl (hcode code)
        · rfl
      rw [hname]
      cases namedEntity? name with
      | none => simp
      | some c => simp [map_cons_eq_ok, expandFrom_skip total (_ + 1) cs]
  · rw [if_pos hend]
    simp only [hend, false_and, reduceCtorEq]

/-- What can be expanded does not depend on the length that faults would tell. -/
theorem expandFrom_total {total : Nat} {cs ds : List Char} (total' : Nat)
    (h : expandFrom total 0 cs = .ok ds) : expandFrom total' 0 cs = .ok ds := by
  induction hn : cs.length using Nat.strongRecOn generalizing cs ds with
  | ind n ih =>
    subst hn
    cases cs with
    | nil => exact h
    | cons c cs =>
      by_cases hc : c = '&'
      · subst hc
        obtain ⟨hend, d, es, hd, hes, rfl⟩ := expandFrom_amp_eq_ok.1 h
        have hrest := ih _ (Nat.lt_succ_of_le (by rw [List.length_drop]; omega)) hes rfl
        exact expandFrom_amp_eq_ok.2 ⟨hend, d, es, hd, hrest, rfl⟩
      · rw [expandFrom, if_pos hc, map_cons_eq_ok] at h ⊢
        obtain ⟨es, hes, rfl⟩ := h
        exact ⟨es, ih _ (Nat.lt_succ_self _) hes rfl, rfl⟩

/-! ### Expansion of spellings -/

namespace Spells

variable {delimiter : Char} {cs raw : List Char}

/-- What a spelling says comes in front of what the rest says. -/
theorem expandFrom_append (h : Spells delimiter cs raw) {total : Nat} {rest ds : List Char}
    (hrest : expandFrom total 0 rest = .ok ds) :
    expandFrom total 0 (raw ++ rest) = .ok (cs ++ ds) := by
  induction h with
  | nil => exact hrest
  | plain hamp _ _ ih =>
    rw [List.cons_append, expandFrom, if_pos hamp, ih]
    rfl
  | @entity c name cs raw hname _ ih =>
    rw [show '&' :: name ++ ';' :: raw ++ rest = '&' :: (name ++ ';' :: (raw ++ rest)) by simp]
    refine expandFrom_amp_eq_ok.2 ?_
    simp only [hname.takeWhile_eq]
    have hbehind : (name ++ ';' :: (raw ++ rest)).drop (name.length + 1) = raw ++ rest := by
      simp [List.drop_append]
    exact ⟨by simp, c, cs ++ ds, hname.entityCharacter?_eq, by rw [hbehind, ih], rfl⟩

/-- In front of more text that can be expanded, the text comes in front of it. -/
theorem expand_append (h : Spells delimiter cs raw) {rest ds : List Char}
    (hrest : expand rest = .ok ds) : expand (raw ++ rest) = .ok (cs ++ ds) :=
  h.expandFrom_append (expandFrom_total _ hrest)

/-- Every spelling of a text expands to the text. -/
theorem expand_eq (h : Spells delimiter cs raw) : expand raw = .ok cs := by
  have happend : expand (raw ++ []) = .ok (cs ++ []) := h.expand_append rfl
  rwa [List.append_nil, List.append_nil] at happend

/-- A delimiter is nowhere in a spelling, for entities are made of other characters. -/
theorem delimiter_not_mem (h : Spells delimiter cs raw)
    (hd : delimiter = '<' ∨ delimiter = '"' ∨ delimiter = '\'') : delimiter ∉ raw := by
  -- An entity consists of letters, digits and its own marks, and no delimiter is one of them.
  have hother : delimiter ≠ '&' ∧ delimiter ≠ ';' ∧ delimiter ≠ '#' ∧
      delimiter.isAlphanum = false := by
    rcases hd with rfl | rfl | rfl <;> decide
  obtain ⟨hamp, hsemicolon, hmark, halnum⟩ := hother
  induction h with
  | nil => exact List.not_mem_nil
  | plain _ hne _ ih =>
    intro hmem
    rcases List.mem_cons.1 hmem with rfl | hmem
    · exact hne rfl
    · exact ih hmem
  | @entity c name cs raw hname _ ih =>
    intro hmem
    rw [List.cons_append, List.mem_cons, List.mem_append, List.mem_cons] at hmem
    rcases hmem with rfl | hmem | rfl | hmem
    · exact hamp rfl
    · rcases hname.chars delimiter hmem with rfl | htrue
      · exact hmark rfl
      · exact absurd (halnum.symm.trans htrue) Bool.false_ne_true
    · exact hsemicolon rfl
    · exact ih hmem

end Spells

end QueryBook.Xml
