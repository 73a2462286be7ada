import Mathlib.Data.List.DropRight

/-!
# Trimming and lower-casing

`trim` removes the white space and line terminators of ECMAScript at both
ends.  `toLowerCase` is the default case conversion of Unicode; the character
database it consults is a parameter, with the facts about its tables that
make the conversion idempotent.
-/

namespace Cinema.Text

/-- White space and line terminators. -/
def isBlank (c : Char) : Bool :=
  let code := c.toNat
  (9 ≤ code && code ≤ 13) || code = 0x20 || code = 0xA0 || code = 0x1680 ||
    (0x2000 ≤ code && code ≤ 0x200A) || code = 0x2028 || code = 0x2029 ||
    code = 0x202F || code = 0x205F || code = 0x3000 || code = 0xFEFF

def trimChars (chars : List Char) : List Char :=
  (chars.dropWhile isBlank).rdropWhile isBlank

def trim (text : String) : String :=
  String.ofList (trimChars text.toList)

/-- Neither end is blank. -/
def Tight (chars : List Char) : Prop :=
  (∀ c ∈ chars.head?, isBlank c = false) ∧
    ∀ c ∈ chars.getLast?, isBlank c = false

theorem tight_trimChars (chars : List Char) : Tight (trimChars chars) := by
  constructor
  · intro c first
    have headDropped : ∀ {rest : List Char},
        (rest.rdropWhile isBlank).head? = some c → rest.head? = some c := by
      intro rest isHead
      obtain ⟨suffix, equality⟩ := List.rdropWhile_prefix isBlank rest
      cases kept : rest.rdropWhile isBlank with
      | nil => simp [kept] at isHead
      | cons head tail =>
          rw [kept] at isHead equality
          rw [← equality]
          simpa using isHead
    have dropped := headDropped first
    have notBlank := List.head?_dropWhile_not isBlank chars
    rw [dropped] at notBlank
    simpa using notBlank
  · intro c last
    have notBlank := List.rdropWhile_last_not isBlank
      (chars.dropWhile isBlank)
    have nonempty : (chars.dropWhile isBlank).rdropWhile isBlank ≠ [] := by
      intro empty
      rw [trimChars, empty] at last
      simp at last
    have isLast := List.getLast?_eq_some_getLast nonempty
    rw [trimChars, isLast] at last
    cases last
    simpa using notBlank nonempty

theorem trimChars_of_tight {chars : List Char} (tight : Tight chars) :
    trimChars chars = chars := by
  have dropNothing : chars.dropWhile isBlank = chars := by
    cases chars with
    | nil => rfl
    | cons head tail =>
        have notBlank := tight.1 head (by simp)
        simp [notBlank]
  rw [trimChars, dropNothing]
  by_cases empty : chars = []
  · simp [empty]
  · rw [List.rdropWhile_eq_self_iff]
    intro nonempty
    have notBlank := tight.2 (chars.getLast nonempty)
      (by simp [List.getLast?_eq_some_getLast nonempty])
    simp [notBlank]

theorem trim_of_tight {text : String} (tight : Tight text.toList) :
    trim text = text := by
  rw [trim, trimChars_of_tight tight, String.ofList_toList]

/-- A string that `trim` leaves alone. -/
def Trimmed (text : String) : Prop := trim text = text

instance (text : String) : Decidable (Trimmed text) :=
  inferInstanceAs (Decidable (trim text = text))

theorem trimmed_trim (text : String) : Trimmed (trim text) := by
  simp only [Trimmed, trim, String.toList_ofList,
    trimChars_of_tight (tight_trimChars text.toList)]

/-! ## Lower case -/

/-- The parts of the Unicode character database that `toLowerCase` uses. -/
structure CaseMapping where
  /-- The full lower-case mapping, except for the final sigma. -/
  lower : Char → List Char
  cased : Char → Bool
  caseIgnorable : Char → Bool
  lower_ne_nil : ∀ c, lower c ≠ []
  /-- Lower-case mappings map no further. -/
  lower_stable : ∀ c d, c ≠ 'Σ' → d ∈ lower c → d ≠ 'Σ' ∧ lower d = [d]
  lower_sigma : lower 'σ' = ['σ']
  lower_final_sigma : lower 'ς' = ['ς']
  /-- Only blanks are mapped to blanks. -/
  lower_blank : ∀ c d, d ∈ lower c → isBlank d = true → isBlank c = true

namespace CaseMapping

variable (mapping : CaseMapping)

/-- A cased letter follows, possibly after case-ignorable characters. -/
def seesCased : List Char → Bool
  | [] => false
  | c :: rest => mapping.cased c || (mapping.caseIgnorable c && seesCased rest)

/-- The context in which a capital sigma ends a word; `before` is reversed. -/
def finalSigma (before after : List Char) : Bool :=
  mapping.seesCased before && !mapping.seesCased after

def lowerChar (before : List Char) (c : Char) (after : List Char) :
    List Char :=
  if c = 'Σ' then [if mapping.finalSigma before after then 'ς' else 'σ']
  else mapping.lower c

def lowerChars (before : List Char) : List Char → List Char
  | [] => []
  | c :: after =>
      mapping.lowerChar before c after ++ lowerChars (c :: before) after

def toLowerCase (text : String) : String :=
  String.ofList (mapping.lowerChars [] text.toList)

variable {mapping}

theorem lowerChar_ne_nil (before : List Char) (c : Char)
    (after : List Char) : mapping.lowerChar before c after ≠ [] := by
  unfold lowerChar
  split
  · simp
  · exact mapping.lower_ne_nil c

theorem lowerChar_stable {before after : List Char} {c d : Char}
    (member : d ∈ mapping.lowerChar before c after) :
    d ≠ 'Σ' ∧ mapping.lower d = [d] := by
  unfold lowerChar at member
  split at member
  · rw [List.mem_singleton] at member
    subst member
    split
    · exact ⟨by decide, mapping.lower_final_sigma⟩
    · exact ⟨by decide, mapping.lower_sigma⟩
  · rename_i notSigma
    exact mapping.lower_stable c d notSigma member

theorem lowerChar_blank {before after : List Char} {c d : Char}
    (member : d ∈ mapping.lowerChar before c after)
    (blank : isBlank d = true) : isBlank c = true := by
  unfold lowerChar at member
  split at member
  · rw [List.mem_singleton] at member
    subst member
    split at blank <;> simp [isBlank] at blank
  · exact mapping.lower_blank c d member blank

theorem lowerChars_stable {before chars : List Char} {d : Char}
    (member : d ∈ mapping.lowerChars before chars) :
    d ≠ 'Σ' ∧ mapping.lower d = [d] := by
  induction chars generalizing before with
  | nil => simp [lowerChars] at member
  | cons c after ih =>
      rcases List.mem_append.mp member with first | later
      · exact lowerChar_stable first
      · exact ih later

theorem lowerChars_of_stable {before chars : List Char}
    (stable : ∀ d ∈ chars, d ≠ 'Σ' ∧ mapping.lower d = [d]) :
    mapping.lowerChars before chars = chars := by
  induction chars generalizing before with
  | nil => rfl
  | cons c after ih =>
      obtain ⟨notSigma, fixed⟩ := stable c (by simp)
      have rest : mapping.lowerChars (c :: before) after = after :=
        ih fun d member => stable d (by simp [member])
      simp [lowerChars, lowerChar, notSigma, fixed, rest]

theorem toLowerCase_idem (text : String) :
    mapping.toLowerCase (mapping.toLowerCase text) =
      mapping.toLowerCase text := by
  simp only [toLowerCase, String.toList_ofList]
  rw [lowerChars_of_stable fun d member => lowerChars_stable member]

/-- The last character of a converted string comes from the last one of the
original. -/
private theorem lowerChars_last {before chars : List Char} {d : Char}
    (last : (mapping.lowerChars before chars).getLast? = some d) :
    ∃ c, chars.getLast? = some c ∧ (isBlank d = true → isBlank c = true) := by
  induction chars generalizing before with
  | nil => simp [lowerChars] at last
  | cons c after ih =>
      cases after with
      | nil =>
          refine ⟨c, rfl, fun blank => ?_⟩
          have member : d ∈ mapping.lowerChar before c [] := by
            simpa [lowerChars] using List.mem_of_getLast? last
          exact lowerChar_blank member blank
      | cons next rest =>
          have nonempty :
              mapping.lowerChars (c :: before) (next :: rest) ≠ [] := by
            simp [lowerChars, lowerChar_ne_nil]
          rw [lowerChars, List.getLast?_append_of_ne_nil _ nonempty] at last
          obtain ⟨original, isLast, blank⟩ := ih last
          exact ⟨original, by simpa using isLast, blank⟩

theorem tight_lowerChars {chars : List Char} (tight : Tight chars) :
    Tight (mapping.lowerChars [] chars) := by
  constructor
  · intro d first
    cases chars with
    | nil => simp [lowerChars] at first
    | cons c after =>
        obtain ⟨head, tail, lowered⟩ :=
          List.exists_cons_of_ne_nil (mapping.lowerChar_ne_nil [] c after)
        have isHead : d = head := by
          simpa [lowerChars, lowered, eq_comm] using first
        have member : d ∈ mapping.lowerChar [] c after := by
          simp [lowered, isHead]
        have notBlank := tight.1 c (by simp)
        by_contra blank
        have impossible :=
          lowerChar_blank member (by simpa using blank)
        simp [notBlank] at impossible
  · intro d last
    obtain ⟨c, isLast, blankOf⟩ := lowerChars_last last
    have notBlank := tight.2 c isLast
    by_contra blank
    have impossible := blankOf (by simpa using blank)
    simp [notBlank] at impossible

/-- Trimming and then lower-casing twice is the same as once. -/
theorem lower_trim_idem (text : String) :
    mapping.toLowerCase (trim (mapping.toLowerCase (trim text))) =
      mapping.toLowerCase (trim text) := by
  have tightOriginal : Tight (trim text).toList := by
    rw [trim, String.toList_ofList]
    exact tight_trimChars text.toList
  have tightLowered : Tight (mapping.toLowerCase (trim text)).toList := by
    rw [toLowerCase, String.toList_ofList]
    exact tight_lowerChars tightOriginal
  rw [trim_of_tight tightLowered, toLowerCase_idem]

/-! The conversion of ASCII letters, for examples. -/

def asciiLower (c : Char) : Char :=
  if 65 ≤ c.toNat ∧ c.toNat < 91 then Char.ofNat (c.toNat + 32) else c

private theorem asciiLower_cases (c : Char) :
    (asciiLower c = c ∧ ¬ (65 ≤ c.toNat ∧ c.toNat < 91)) ∨
      (97 ≤ (asciiLower c).toNat ∧ (asciiLower c).toNat < 123) := by
  unfold asciiLower
  split
  · rename_i upper
    have letters : ∀ code < 91, 65 ≤ code →
        (Char.ofNat (code + 32)).toNat = code + 32 := by decide
    rw [letters _ upper.2 upper.1]
    omega
  · rename_i notUpper
    exact .inl ⟨rfl, notUpper⟩

def ascii : CaseMapping where
  lower c := [asciiLower c]
  cased c := asciiLower c ≠ c
  caseIgnorable _ := false
  lower_ne_nil _ := List.cons_ne_nil _ _
  lower_stable c d notSigma member := by
    obtain rfl := List.mem_singleton.mp member
    rcases asciiLower_cases c with ⟨same, _⟩ | lower
    · rw [same, same]
      exact ⟨notSigma, rfl⟩
    · constructor
      · intro isSigma
        rw [isSigma] at lower
        exact absurd lower.2 (by decide)
      · have notUpper : ¬ (65 ≤ (asciiLower c).toNat ∧
            (asciiLower c).toNat < 91) := by omega
        rw [asciiLower, if_neg notUpper]
  lower_sigma := rfl
  lower_final_sigma := rfl
  lower_blank c d member blank := by
    obtain rfl := List.mem_singleton.mp member
    rcases asciiLower_cases c with ⟨same, _⟩ | lower
    · rwa [same] at blank
    · simp [isBlank] at blank
      omega

end CaseMapping

end Cinema.Text
