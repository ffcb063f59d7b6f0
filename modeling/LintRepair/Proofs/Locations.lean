import LintRepair.Diagnostic.Location
import LintRepair.Proofs.Scanning
import LintRepair.Proofs.Scope

/-!
The marker line of a diagnostic.

* `split?_path`: a path reaches up to the last two numbers of the brackets, even
  if it has colons, brackets and numbers of its own;
* `ofLine?_marker`: a location that is written on a marker line is read from it.
-/

namespace LintRepair

/-! ## Numbers -/

theorem digitIn?_digitChar {d : Nat} (h : d < 10) : digitIn? 10 d.digitChar = some d := by
  revert d
  decide

theorem foldlM_toDigits (n : Nat) :
    (Nat.toDigits 10 n).foldlM (fun n c => (digitIn? 10 c).map (10 * n + ·)) 0 = some n := by
  induction n using Nat.strongRecOn with
  | ind n ih =>
    by_cases small : n < 10
    · simp [Nat.toDigits_of_lt_base small, digitIn?_digitChar small]
    · rw [Nat.toDigits_of_base_le (by decide) (by omega), List.foldlM_append,
        ih (n / 10) (by omega)]
      simp only [Option.bind_eq_bind, Option.bind_some, List.foldlM_cons, List.foldlM_nil,
        digitIn?_digitChar (Nat.mod_lt n (by decide)), Option.map_some, Option.pure_def]
      congr 1
      omega

theorem natOfDigits?_toDigits (n : Nat) : natOfDigits? 10 (Nat.toDigits 10 n) = some n := by
  rw [natOfDigits?, if_neg (by simp), foldlM_toDigits]

theorem wordOfDigits?_toDigits {n : Nat} (h : n ≤ wordMax) :
    wordOfDigits? (Nat.toDigits 10 n) = some n := by
  simp [wordOfDigits?, natOfDigits?_toDigits, h]

theorem isDecimal_of_isDigit {c : Char} (h : c.isDigit = true) : isDecimal c = true := by
  have ascii : c.toNat < 128 := by
    simp only [Char.isDigit, Bool.and_eq_true, decide_eq_true_eq] at h
    exact Nat.lt_of_le_of_lt (UInt32.le_iff_toNat_le.mp h.2) (by decide)
  rw [isDecimal, if_pos ascii, h]

/-- Digits, at least one. -/
def IsNumber (digits : List Char) : Prop := digits ≠ [] ∧ ∀ c ∈ digits, isDecimal c = true

theorem isNumber_toDigits (n : Nat) : IsNumber (Nat.toDigits 10 n) :=
  ⟨Nat.toDigits_ne_nil, fun _ hc =>
    isDecimal_of_isDigit (Nat.isDigit_of_mem_toDigits (by decide) (by decide) hc)⟩

theorem IsNumber.takeWhile {digits : List Char} (h : IsNumber digits) {c : Char}
    (stop : isDecimal c = false) (rest : List Char) :
    (digits ++ c :: rest).takeWhile isDecimal = digits := by
  rw [List.takeWhile_append_of_pos h.2]
  simp [stop]

theorem IsNumber.dropWhile {digits : List Char} (h : IsNumber digits) {c : Char}
    (stop : isDecimal c = false) (rest : List Char) :
    (digits ++ c :: rest).dropWhile isDecimal = c :: rest := by
  rw [List.dropWhile_append_of_pos h.2]
  simp [stop]

/-! ## Paths before numbers -/

namespace Location

theorem numbers?_colon {line column : List Char} (hl : IsNumber line) (hc : IsNumber column) :
    numbers? (':' :: (line ++ ':' :: (column ++ [']']))) = some (line, column) := by
  have colon : isDecimal ':' = false := by decide
  have bracket : isDecimal ']' = false := by decide
  simp only [numbers?, after?, if_true, Option.bind_eq_bind, Option.bind_some,
    Option.bind_eq_some_iff, Option.guard_eq_some', exists_const, hl.takeWhile colon,
    hl.dropWhile colon, hc.takeWhile bracket, hc.dropWhile bracket]
  exact ⟨by simpa using hl.1, by simpa using hc.1, rfl⟩

theorem numbers?_eq_none {c : Char} (h : c ≠ ':') (s : List Char) : numbers? (c :: s) = none := by
  simp [numbers?, after?, Ne.symm h]

theorem split?_eq_none {s : List Char} (h : ∀ t, t <:+ s → numbers? t = none) (c : Char) :
    split? (c :: s) = none := by
  induction s generalizing c with
  | nil => rfl
  | cons d s ih =>
    have later : split? (d :: s) = none := ih (fun t ht => h t (ht.trans (List.suffix_cons d s))) d
    rw [split?, later, h (d :: s) (List.suffix_refl _)]
    rfl

theorem numbers?_suffix_digits {digits rest : List Char}
    (decimal : ∀ c ∈ digits, isDecimal c = true)
    (h : ∀ t, t <:+ rest → numbers? t = none) : ∀ t, t <:+ digits ++ rest → numbers? t = none := by
  induction digits with
  | nil => exact h
  | cons c digits ih =>
    intro t ht
    rcases List.suffix_cons_iff.mp ht with rfl | ht
    · apply numbers?_eq_none
      rintro rfl
      exact absurd (decimal ':' List.mem_cons_self) (by decide)
    · exact ih (fun d hd => decimal d (List.mem_cons_of_mem c hd)) t ht

/-- Inside of `:line:column]` no other line and column begin. -/
theorem split?_numbers {line column : List Char} (hl : IsNumber line) (hc : IsNumber column) :
    split? (':' :: (line ++ ':' :: (column ++ [']']))) = none := by
  have bracket : ∀ t, t <:+ [']'] → numbers? t = none := by
    intro t ht
    rcases List.suffix_cons_iff.mp ht with rfl | ht
    · rfl
    · rw [List.suffix_nil.mp ht]
      rfl
  have single : numbers? (':' :: (column ++ [']'])) = none := by
    have stop : isDecimal ']' = false := by decide
    simp [numbers?, after?, hc.takeWhile stop, hc.dropWhile stop]
  apply split?_eq_none
  apply numbers?_suffix_digits hl.2
  intro t ht
  rcases List.suffix_cons_iff.mp ht with rfl | ht
  · exact single
  · exact numbers?_suffix_digits hc.2 bracket t ht

theorem split?_path {path line column : List Char} (ne : path ≠ []) (hl : IsNumber line)
    (hc : IsNumber column) :
    split? (path ++ ':' :: (line ++ ':' :: (column ++ [']']))) = some (path, line, column) := by
  induction path with
  | nil => contradiction
  | cons c path ih =>
    rw [List.cons_append, split?]
    cases path with
    | nil => simp [split?_numbers hl hc, numbers?_colon hl hc]
    | cons d path => rw [ih (by simp)]

/-! ## Marker lines -/

theorem splitAt?_opening {opening : List Char} (known : opening ∈ openings) (s : List Char)
    (previous : Option Char) : splitAt? previous (opening ++ s) = split? s := by
  simp only [openings, List.mem_cons, List.not_mem_nil, or_false] at known
  rcases known with rfl | rfl
  · cases h : split? s <;> simp [splitAt?, openings, after?, h]
  · simp [splitAt?, openings, after?]

/-- A marker line, indented as the analyzer indents it. -/
def markerLine (opening path line column : List Char) : List Char :=
  "   ".toList ++ (opening ++ (path ++ ':' :: (line ++ ':' :: (column ++ [']']))))

theorem firstMatch_markerLine {opening path line column : List Char} (known : opening ∈ openings)
    (ne : path ≠ []) (hl : IsNumber line) (hc : IsNumber column) :
    firstMatch splitAt? none (markerLine opening path line column) = some (path, line, column) := by
  have space (previous : Option Char) (rest : List Char) :
      splitAt? previous (' ' :: rest) = none := by
    simp [splitAt?, openings, after?]
  have there (previous : Option Char) := (splitAt?_opening known _ previous).trans
    (split?_path ne hl hc)
  change firstMatch splitAt? none (' ' :: ' ' :: ' ' :: _) = _
  simp only [firstMatch, space, Option.none_or]
  exact firstMatch_here (there _)

theorem ofLine?_marker {opening path : List Char} {line column : Nat} (known : opening ∈ openings)
    (ne : path ≠ []) (trimmed : trim path = path) (positive : line ≠ 0) (hl : line ≤ wordMax)
    (hc : column ≤ wordMax) :
    ofLine? (markerLine opening path (Nat.toDigits 10 line) (Nat.toDigits 10 column)) =
      some ⟨⟨.ofList path⟩, line, column⟩ := by
  have found := firstMatch_markerLine known ne (isNumber_toDigits line) (isNumber_toDigits column)
  have named : (!path.isEmpty && line != 0) = true := by simp [ne, positive]
  simp only [ofLine?, found, Option.bind_eq_bind, Option.bind_some, trimmed,
    wordOfDigits?_toDigits hl, wordOfDigits?_toDigits hc, Option.bind_eq_some_iff,
    Option.guard_eq_some', named, exists_const]
  exact ⟨trivial, rfl⟩

theorem hasMarker_append {line : List Char} (more : List Char) (h : hasMarker line = true) :
    hasMarker (line ++ more) = true := by
  simp only [hasMarker, List.any_eq_true, occursIn_iff] at h ⊢
  obtain ⟨opening, known, inside⟩ := h
  exact ⟨opening, known, inside.trans (List.prefix_append line more).isInfix⟩

theorem hasMarker_markerLine {opening : List Char} (known : opening ∈ openings)
    (path line column : List Char) : hasMarker (markerLine opening path line column) = true := by
  simp only [hasMarker, List.any_eq_true, occursIn_iff]
  exact ⟨opening, known, "   ".toList, _, List.append_assoc _ _ _⟩

end Location

/-- A text that neither begins nor ends with white space is left as it is. -/
theorem trim_eq_self {s : List Char} (first : ∀ c ∈ s.head?, isSpace c = false)
    (last : ∀ c ∈ s.getLast?, isSpace c = false) : trim s = s := by
  have start : dropSpaces s = s := by
    cases s with
    | nil => rfl
    | cons c s => simp [dropSpaces, first c rfl]
  have ends : s.reverse.dropWhile isSpace = s.reverse := by
    cases backwards : s.reverse with
    | nil => rfl
    | cons c rest =>
      have : s.getLast? = some c := by rw [← List.head?_reverse, backwards]; rfl
      simp [last c this]
  rw [trim, start, ends, List.reverse_reverse]

end LintRepair
