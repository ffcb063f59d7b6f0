import Mathlib.Data.List.DropRight
import LintRepair.Json.Reader
import LintRepair.Print.Scan
import LintRepair.Proofs.Locations

/-!
JSON documents, and that a pass written as one can be read back.

* `Spells`: how a value may be written, with blanks and escapes of any kind;
* `Spells.reads`: what is written so is read, and as this value;
* `Worded.spells`: the writer writes so, at any depth;
* `json_read_back`: the findings and the count of a pass are read from its document.
-/

namespace LintRepair.Json

/-! ## Documents -/

/-- Four hexadecimal digits and their number. -/
def IsUnit (digits : List Char) (n : Nat) : Prop :=
  ∃ a b c d, digits = [a, b, c, d] ∧ natOfDigits? 16 digits = some n

/-- What stands for a character behind a backslash. -/
def shortEscapes : List (Char × Char) :=
  [('"', '"'), ('\\', '\\'), ('/', '/'), ('\x08', 'b'), ('\x0c', 'f'), ('\n', 'n'), ('\r', 'r'),
    ('\t', 't')]

/-- How a character may be written between quotes. -/
inductive SpellsChar (c : Char) : List Char → Prop
  | plain (quote : c ≠ '"') (backslash : c ≠ '\\') (control : 32 ≤ c.toNat) : SpellsChar c [c]
  | short {letter : Char} (known : (c, letter) ∈ shortEscapes) : SpellsChar c ['\\', letter]
  | unit {digits : List Char} (is : IsUnit digits c.toNat) : SpellsChar c ('\\' :: 'u' :: digits)
  | pair {high low : List Char} {a b : Nat} (first : IsUnit high (0xD800 + a))
      (second : IsUnit low (0xDC00 + b)) (ha : a < 0x400) (hb : b < 0x400)
      (code : c.toNat = 0x10000 + a * 0x400 + b) :
      SpellsChar c ('\\' :: 'u' :: high ++ '\\' :: 'u' :: low)

/-- How a text may be written between quotes. -/
inductive SpellsText : List Char → List Char → Prop
  | nil : SpellsText [] []
  | cons {c : Char} {text word s : List Char} (head : SpellsChar c word)
      (tail : SpellsText text s) : SpellsText (c :: text) (word ++ s)

def Blank (s : List Char) : Prop := ∀ c ∈ s, isBlank c = true

theorem Blank.nil : Blank [] := List.forall_mem_nil _

/-- How the name of a member may be written, with its colon. -/
def SpellsName (name : String) (s : List Char) : Prop :=
  ∃ before word behind, Blank before ∧ SpellsText name.toList word ∧ Blank behind ∧
    s = before ++ '"' :: word ++ '"' :: behind ++ [':']

/-- The parts of a document: a value, a value with blanks around it, the elements of an array up to
its bracket, and the members of an object up to its brace. -/
inductive Part where
  | value (v : Value)
  | padded (v : Value)
  | elements (vs : List Value)
  | members (members : List (String × Value))

/-- How a part may be written. The numbers are those that a word holds. -/
inductive Spells : Part → List Char → Prop
  | null : Spells (.value .null) "null".toList
  | bool (b : Bool) : Spells (.value (.bool b)) (if b then "true".toList else "false".toList)
  | nat {n : Nat} (fits : n ≤ wordMax) : Spells (.value (.nat n)) (Nat.toDigits 10 n)
  | string {text : String} {s : List Char} (spelled : SpellsText text.toList s) :
      Spells (.value (.string text)) ('"' :: s ++ ['"'])
  | emptyArray {s : List Char} (blank : Blank s) : Spells (.value (.array [])) ('[' :: s ++ [']'])
  | array {vs : List Value} {s : List Char} (elements : Spells (.elements vs) s) :
      Spells (.value (.array vs)) ('[' :: s)
  | emptyObject {s : List Char} (blank : Blank s) :
      Spells (.value (.object [])) ('\x7b' :: s ++ ['\x7d'])
  | object {members : List (String × Value)} {s : List Char} (spelled : Spells (.members members) s) :
      Spells (.value (.object members)) ('\x7b' :: s)
  | padded {v : Value} {before s behind : List Char} (blank : Blank before)
      (value : Spells (.value v) s) (blank' : Blank behind) :
      Spells (.padded v) (before ++ s ++ behind)
  | lastElement {v : Value} {s : List Char} (value : Spells (.padded v) s) :
      Spells (.elements [v]) (s ++ [']'])
  | element {v : Value} {vs : List Value} {s more : List Char} (value : Spells (.padded v) s)
      (elements : Spells (.elements vs) more) : Spells (.elements (v :: vs)) (s ++ ',' :: more)
  | lastMember {name : String} {v : Value} {word s : List Char} (named : SpellsName name word)
      (value : Spells (.padded v) s) : Spells (.members [(name, v)]) (word ++ s ++ ['\x7d'])
  | member {name : String} {v : Value} {members : List (String × Value)} {word s more : List Char}
      (named : SpellsName name word) (value : Spells (.padded v) s)
      (spelled : Spells (.members members) more) :
      Spells (.members ((name, v) :: members)) (word ++ s ++ ',' :: more)

/-- The text is a document, and this is its value. -/
def Document (text : String) (v : Value) : Prop := Spells (.padded v) text.toList

/-! ## Reading text -/

theorem dropBlanks_append {before : List Char} (blank : Blank before) (s : List Char) :
    dropBlanks (before ++ s) = dropBlanks s :=
  List.dropWhile_append_of_pos blank

theorem readUnit?_append {digits : List Char} {n : Nat} (is : IsUnit digits n) (rest : List Char) :
    readUnit? (digits ++ rest) = some (n, rest) := by
  obtain ⟨a, b, c, d, rfl, value⟩ := is
  simp [readUnit?, value]

theorem readEscape?_unit {c : Char} {digits : List Char} (is : IsUnit digits c.toNat)
    (rest : List Char) : readEscape? ('u' :: digits ++ rest) = some (c, rest) := by
  -- No character has the number of a unit that needs another one.
  have valid : c.toNat < 0xD800 ∨ 0xDFFF < c.toNat := c.valid.imp_right And.left
  have single : ¬ (0xD800 ≤ c.toNat ∧ c.toNat ≤ 0xDBFF) := by omega
  have apart : c.toNat < 0xDC00 ∨ 0xDFFF < c.toNat := by omega
  rw [List.cons_append, readEscape?, readUnit?_append is]
  simp [single, apart, guard]

theorem readEscape?_pair {c : Char} {high low : List Char} {a b : Nat}
    (first : IsUnit high (0xD800 + a)) (second : IsUnit low (0xDC00 + b)) (ha : a < 0x400)
    (hb : b < 0x400) (code : c.toNat = 0x10000 + a * 0x400 + b) (rest : List Char) :
    readEscape? ('u' :: high ++ '\\' :: 'u' :: low ++ rest) = some (c, rest) := by
  have double : 0xD800 + a ≤ 0xDBFF := by omega
  have lower : 0xDC00 + b ≤ 0xDFFF := by omega
  have char : Char.ofNat (0x10000 + a * 0x400 + b) = c := by rw [← code, Char.ofNat_toNat]
  rw [List.append_assoc, List.cons_append, readEscape?, readUnit?_append first]
  simp [after?, readUnit?_append second, double, lower, char, guard]

theorem readEscape?_short {c letter : Char} (known : (c, letter) ∈ shortEscapes) (rest : List Char) :
    readEscape? (letter :: rest) = some (c, rest) := by
  simp only [shortEscapes, List.mem_cons, Prod.mk.injEq, List.not_mem_nil, or_false] at known
  rcases known with ⟨rfl, rfl⟩ | ⟨rfl, rfl⟩ | ⟨rfl, rfl⟩ | ⟨rfl, rfl⟩ | ⟨rfl, rfl⟩ | ⟨rfl, rfl⟩ |
    ⟨rfl, rfl⟩ | ⟨rfl, rfl⟩ <;> rfl

/-- One character is read from what spells it. -/
theorem SpellsChar.reads {c : Char} {word : List Char} (h : SpellsChar c word) (fuel : Nat)
    (s : List Char) : readString? (fuel + 1) (word ++ s) =
      (readString? fuel s).map fun read => (c :: read.1, read.2) := by
  have escaped {word : List Char} (read : readEscape? (word ++ s) = some (c, s)) :
      readString? (fuel + 1) ('\\' :: word ++ s) =
        (readString? fuel s).map fun read => (c :: read.1, read.2) := by
    simp [readString?, read, Option.map_eq_bind]
  cases h with
  | plain quote backslash control =>
    have visible : ¬ c.toNat < 32 := Nat.not_lt.mpr control
    simp [readString?, quote, backslash, visible, Option.map_eq_bind]
  | short known => exact escaped (readEscape?_short known s)
  | unit is => exact escaped (readEscape?_unit is s)
  | pair first second ha hb code => exact escaped (readEscape?_pair first second ha hb code s)

theorem SpellsChar.length_pos {c : Char} {word : List Char} (h : SpellsChar c word) :
    0 < word.length := by
  cases h <;> simp

theorem SpellsText.reads {text s : List Char} (h : SpellsText text s) {fuel : Nat}
    (enough : s.length < fuel) (rest : List Char) :
    readString? fuel (s ++ '"' :: rest) = some (text, rest) := by
  induction h generalizing fuel with
  | nil =>
    cases fuel with
    | zero => cases enough
    | succ fuel => simp [readString?]
  | cons head tail ih =>
    cases fuel with
    | zero => cases enough
    | succ fuel =>
      have shorter := head.length_pos
      rw [List.length_append] at enough
      rw [List.append_assoc, head.reads, ih (by omega), Option.map_some]

theorem SpellsText.reads_whole {text s : List Char} (h : SpellsText text s) (rest : List Char) :
    readString? ((s ++ '"' :: rest).length + 1) (s ++ '"' :: rest) = some (text, rest) :=
  h.reads (by rw [List.length_append]; omega) rest

theorem SpellsName.reads {name : String} {word : List Char} (h : SpellsName name word)
    (rest : List Char) : readName? (word ++ rest) = some (name, rest) := by
  obtain ⟨before, spelled, behind, blank, text, blank', rfl⟩ := h
  have opened : dropBlanks (before ++ '"' :: spelled ++ '"' :: behind ++ [':'] ++ rest) =
      '"' :: (spelled ++ '"' :: (behind ++ ':' :: rest)) := by
    simp only [List.append_assoc, List.cons_append, List.nil_append]
    exact dropBlanks_append blank _
  have closed : dropBlanks (behind ++ ':' :: rest) = ':' :: rest := dropBlanks_append blank' _
  rw [readName?, opened]
  simp only [after?, if_true, Option.bind_eq_bind, Option.bind_some, text.reads_whole, closed,
    String.ofList_toList, Option.pure_def]

/-! ## Reading values -/

/-- What can stand behind a value. -/
def isClosing (c : Char) : Bool := isBlank c || c == ',' || c == ']' || c == '\x7d'

inductive Stops : List Char → Prop
  | done : Stops []
  | next {c : Char} {s : List Char} (closing : isClosing c = true) : Stops (c :: s)

theorem Stops.blank_append {behind rest : List Char} (blank : Blank behind) (stops : Stops rest) :
    Stops (behind ++ rest) := by
  cases behind with
  | nil => exact stops
  | cons c behind =>
    have closing : isClosing c = true := by simp [isClosing, blank c List.mem_cons_self]
    exact .next closing

/-- No number goes on where a value stops. -/
theorem Stops.not_number {rest : List Char} (stops : Stops rest) :
    rest.takeWhile Char.isDigit = [] ∧ rest.dropWhile Char.isDigit = rest ∧
      readFraction? rest = some ([], rest) ∧ readExponent? rest = some ([], rest) := by
  cases stops with
  | done => exact ⟨rfl, rfl, rfl, rfl⟩
  | next closing =>
    simp only [isClosing, isBlank, Bool.or_eq_true, beq_iff_eq] at closing
    rcases closing with (((((rfl | rfl) | rfl) | rfl) | rfl) | rfl) | rfl <;>
      exact ⟨rfl, rfl, rfl, rfl⟩

theorem digitChar_ne_zero {d : Nat} (h : d < 10) (pos : 0 < d) : d.digitChar ≠ '0' := by
  revert d
  decide

theorem head?_toDigits {n : Nat} (pos : 0 < n) : (Nat.toDigits 10 n).head? ≠ some '0' := by
  induction n using Nat.strongRecOn with
  | ind n ih =>
    by_cases small : n < 10
    · simp [Nat.toDigits_of_lt_base small, digitChar_ne_zero small pos]
    · rw [Nat.toDigits_of_base_le (by decide) (by omega), List.head?_append_of_ne_nil _ (by simp)]
      exact ih (n / 10) (by omega) (by omega)

theorem readWhole?_toDigits (n : Nat) {rest : List Char} (stops : Stops rest) :
    readWhole? (Nat.toDigits 10 n ++ rest) = some (Nat.toDigits 10 n, rest) := by
  have digits : ∀ c ∈ Nat.toDigits 10 n, c.isDigit = true := fun _ =>
    Nat.isDigit_of_mem_toDigits (by decide) (by decide)
  have first : (Nat.toDigits 10 n).length = 1 ∨ (Nat.toDigits 10 n).head? ≠ some '0' := by
    rcases Nat.eq_zero_or_pos n with rfl | pos
    · exact .inl rfl
    · exact .inr (head?_toDigits pos)
  obtain ⟨digits', rest', _⟩ := stops.not_number
  rw [readWhole?, readDigits?, List.takeWhile_append_of_pos digits,
    List.dropWhile_append_of_pos digits, digits', rest']
  simp [guard, first]

theorem toDigits_eq_cons (n : Nat) :
    ∃ d digits, Nat.toDigits 10 n = d :: digits ∧ d.isDigit = true := by
  cases cut : Nat.toDigits 10 n with
  | nil => exact absurd cut Nat.toDigits_ne_nil
  | cons d digits =>
    have member : d ∈ Nat.toDigits 10 n := by rw [cut]; exact List.mem_cons_self
    exact ⟨d, digits, rfl, Nat.isDigit_of_mem_toDigits (by decide) (by decide) member⟩

theorem readNumber?_toDigits {n : Nat} (fits : n ≤ wordMax) {rest : List Char} (stops : Stops rest) :
    readNumber? (Nat.toDigits 10 n ++ rest) = some (.natural n, rest) := by
  obtain ⟨_, _, fraction, exponent⟩ := stops.not_number
  rw [readNumber?]
  case x =>
    intro s signed
    obtain ⟨d, digits, cut, digit⟩ := toDigits_eq_cons n
    rw [cut, List.cons_append] at signed
    obtain ⟨rfl, _⟩ := List.cons.inj signed
    cases digit
  simp [readWhole?_toDigits n stops, fraction, exponent, natOfDigits?_toDigits, fits]

theorem readValue?_toDigits {n : Nat} (fits : n ≤ wordMax) (fuel : Nat) {rest : List Char}
    (stops : Stops rest) : readValue? (fuel + 1) (Nat.toDigits 10 n ++ rest) = some (.nat n, rest) := by
  have number := readNumber?_toDigits fits stops
  obtain ⟨d, digits, cut, digit⟩ := toDigits_eq_cons n
  have ne {c : Char} (other : c.isDigit = false) : d ≠ c := by
    rintro rfl
    rw [digit] at other
    cases other
  have first : dropBlanks (d :: (digits ++ rest)) = d :: (digits ++ rest) := by
    simp [dropBlanks, isBlank, ne]
  rw [cut, List.cons_append] at number ⊢
  rw [readValue?, first]
  split
  case h_4 =>
    have noNull : 'n' ≠ d := (ne rfl).symm
    have noTrue : 't' ≠ d := (ne rfl).symm
    have noFalse : 'f' ≠ d := (ne rfl).symm
    simp [after?, number, Value.nat, noNull, noTrue, noFalse]
  all_goals
    next other => exact absurd (List.cons.inj other).1 (ne rfl)

/-! ### Arrays and objects -/

theorem dropBlanks_dropBlanks (s : List Char) : dropBlanks (dropBlanks s) = dropBlanks s :=
  List.dropWhile_idempotent isBlank s

theorem readValue?_dropBlanks (fuel : Nat) (s : List Char) :
    readValue? fuel (dropBlanks s) = readValue? fuel s := by
  cases fuel with
  | zero => rfl
  | succ fuel => rw [readValue?, dropBlanks_dropBlanks, readValue?]

theorem readElements?_dropBlanks (fuel : Nat) (s : List Char) :
    readElements? fuel (dropBlanks s) = readElements? fuel s := by
  cases fuel with
  | zero => rfl
  | succ fuel => rw [readElements?, readElements?, readValue?_dropBlanks]

theorem readMembers?_dropBlanks (fuel : Nat) (s : List Char) :
    readMembers? fuel (dropBlanks s) = readMembers? fuel s := by
  cases fuel with
  | zero => rfl
  | succ fuel => rw [readMembers?, readMembers?, readName?, dropBlanks_dropBlanks, readName?]

theorem readElements?_bracket (fuel : Nat) (s : List Char) : readElements? fuel (']' :: s) = none := by
  rcases fuel with _ | _ | fuel <;> rfl

theorem readMembers?_brace (fuel : Nat) (s : List Char) : readMembers? fuel ('\x7d' :: s) = none := by
  cases fuel <;> rfl

theorem readValue?_quote (fuel : Nat) (s : List Char) : readValue? (fuel + 1) ('"' :: s) =
    (readString? (s.length + 1) s).bind fun read => some (.string (.ofList read.1), read.2) :=
  rfl

section

variable {fuel : Nat} {name : String} {v : Value} {vs : List Value} {s rest more : List Char}
  {members : List (String × Value)}

theorem readValue?_emptyArray (closed : dropBlanks s = ']' :: rest) :
    readValue? (fuel + 1) ('[' :: s) = some (.array [], rest) := by
  have first : dropBlanks ('[' :: s) = '[' :: s := rfl
  simp only [readValue?, first, closed]

theorem readValue?_array (read : readElements? fuel s = some (vs, rest)) :
    readValue? (fuel + 1) ('[' :: s) = some (.array vs, rest) := by
  have first : dropBlanks ('[' :: s) = '[' :: s := rfl
  rw [← readElements?_dropBlanks] at read
  simp only [readValue?, first]
  split
  · next closed =>
    -- What starts with the bracket could not have been read as elements.
    rw [closed, readElements?_bracket] at read
    cases read
  · simp [read]

theorem readValue?_emptyObject (closed : dropBlanks s = '\x7d' :: rest) :
    readValue? (fuel + 1) ('\x7b' :: s) = some (.object [], rest) := by
  have first : dropBlanks ('\x7b' :: s) = '\x7b' :: s := rfl
  simp only [readValue?, first, closed]

theorem readValue?_object (read : readMembers? fuel s = some (members, rest)) :
    readValue? (fuel + 1) ('\x7b' :: s) = some (.object members, rest) := by
  have first : dropBlanks ('\x7b' :: s) = '\x7b' :: s := rfl
  rw [← readMembers?_dropBlanks] at read
  simp only [readValue?, first]
  split
  · next closed =>
    rw [closed, readMembers?_brace] at read
    cases read
  · simp [read]

theorem readElements?_last (value : readValue? fuel s = some (v, more))
    (closed : dropBlanks more = ']' :: rest) : readElements? (fuel + 1) s = some ([v], rest) := by
  rw [readElements?, value]
  simp [closed]

theorem readElements?_cons {behind : List Char} (value : readValue? fuel s = some (v, more))
    (comma : dropBlanks more = ',' :: behind) (elements : readElements? fuel behind = some (vs, rest)) :
    readElements? (fuel + 1) s = some (v :: vs, rest) := by
  rw [readElements?, value]
  simp [comma, elements]

theorem readMembers?_last {t : List Char} (named : readName? t = some (name, s))
    (value : readValue? fuel s = some (v, more)) (closed : dropBlanks more = '\x7d' :: rest) :
    readMembers? (fuel + 1) t = some ([(name, v)], rest) := by
  rw [readMembers?, named]
  simp [value, closed]

theorem readMembers?_cons {t behind : List Char} (named : readName? t = some (name, s))
    (value : readValue? fuel s = some (v, more)) (comma : dropBlanks more = ',' :: behind)
    (read : readMembers? fuel behind = some (members, rest)) :
    readMembers? (fuel + 1) t = some ((name, v) :: members, rest) := by
  rw [readMembers?, named]
  simp [value, comma, read]

end

/-- How a part is read, whatever follows. -/
def Part.Reads : Part → List Char → Prop
  | .value v, s => ∀ fuel rest, s.length ≤ fuel → Stops rest →
      readValue? fuel (s ++ rest) = some (v, rest)
  | .padded v, s => ∀ fuel rest, s.length ≤ fuel → Stops rest →
      ∃ rest', readValue? fuel (s ++ rest) = some (v, rest') ∧ dropBlanks rest' = dropBlanks rest
  | .elements vs, s => ∀ fuel rest, s.length ≤ fuel → readElements? fuel (s ++ rest) = some (vs, rest)
  | .members ms, s => ∀ fuel rest, s.length ≤ fuel → readMembers? fuel (s ++ rest) = some (ms, rest)

/-- What spells a part is read as this part. The fuel has to be as long as the text. -/
theorem Spells.reads {part : Part} {s : List Char} (h : Spells part s) : part.Reads s := by
  induction h with
  | null =>
    rintro (_ | fuel) rest enough _
    · cases enough
    · rfl
  | bool b =>
    rintro (_ | fuel) rest enough _
    · cases b <;> cases enough
    · cases b <;> rfl
  | nat fits =>
    rintro (_ | fuel) rest enough stops
    · exact absurd (List.length_eq_zero_iff.mp (Nat.le_zero.mp enough)) Nat.toDigits_ne_nil
    · exact readValue?_toDigits fits fuel stops
  | @string text s spelled =>
    rintro (_ | fuel) rest enough _
    · cases enough
    · have cut : '"' :: s ++ ['"'] ++ rest = '"' :: (s ++ '"' :: rest) := by simp
      rw [cut, readValue?_quote, spelled.reads_whole, Option.bind_some, String.ofList_toList]
  | @emptyArray s blank =>
    rintro (_ | fuel) rest enough _
    · cases enough
    · have cut : '[' :: s ++ [']'] ++ rest = '[' :: (s ++ ']' :: rest) := by simp
      rw [cut, readValue?_emptyArray (dropBlanks_append blank _)]
  | array elements ih =>
    rintro (_ | fuel) rest enough _
    · cases enough
    · exact readValue?_array (ih fuel rest (Nat.le_of_succ_le_succ enough))
  | @emptyObject s blank =>
    rintro (_ | fuel) rest enough _
    · cases enough
    · have cut : '\x7b' :: s ++ ['\x7d'] ++ rest = '\x7b' :: (s ++ '\x7d' :: rest) := by simp
      rw [cut, readValue?_emptyObject (dropBlanks_append blank _)]
  | object members ih =>
    rintro (_ | fuel) rest enough _
    · cases enough
    · exact readValue?_object (ih fuel rest (Nat.le_of_succ_le_succ enough))
  | @padded v before s behind blank value blank' ih =>
    intro fuel rest enough stops
    simp only [List.length_append] at enough
    -- The blanks behind a value stay, and are dropped where its closing character is looked for.
    refine ⟨behind ++ rest, ?_, dropBlanks_append blank' rest⟩
    rw [← readValue?_dropBlanks, List.append_assoc, List.append_assoc, dropBlanks_append blank,
      readValue?_dropBlanks]
    exact ih fuel (behind ++ rest) (by omega) (stops.blank_append blank')
  | @lastElement v s value ih =>
    rintro (_ | fuel) rest enough <;> rw [List.length_append, List.length_singleton] at enough
    · cases enough
    · obtain ⟨more, read, same⟩ := ih fuel (']' :: rest) (by omega) (.next rfl)
      rw [List.append_assoc]
      exact readElements?_last read same
  | @element v vs s more value elements ih ih' =>
    rintro (_ | fuel) rest enough <;> rw [List.length_append, List.length_cons] at enough
    · cases enough
    · obtain ⟨behind, read, same⟩ := ih fuel (',' :: (more ++ rest)) (by omega) (.next rfl)
      rw [List.append_assoc]
      exact readElements?_cons read same (ih' fuel rest (by omega))
  | @lastMember name v word s named value ih =>
    rintro (_ | fuel) rest enough <;> simp only [List.length_append, List.length_singleton] at enough
    · cases enough
    · obtain ⟨more, read, same⟩ := ih fuel ('\x7d' :: rest) (by omega) (.next rfl)
      rw [List.append_assoc, List.append_assoc]
      exact readMembers?_last (named.reads _) read same
  | @member name v members word s more named value spelled ih ih' =>
    rintro (_ | fuel) rest enough <;> simp only [List.length_append, List.length_cons] at enough
    · cases enough
    · obtain ⟨behind, read, same⟩ := ih fuel (',' :: (more ++ rest)) (by omega) (.next rfl)
      rw [List.append_assoc, List.append_assoc]
      exact readMembers?_cons (named.reads _) read same (ih' fuel rest (by omega))

/-- A document is read as its value, so it has one value only. -/
theorem Document.read? {text : String} {v : Value} (h : Document text v) : read? text = some v := by
  obtain ⟨rest, read, same⟩ := Spells.reads h (text.toList.length + 1) [] (by omega) .done
  rw [List.append_nil] at read
  have ended : dropBlanks rest = [] := same
  simp [Json.read?, read, ended, guard]

/-! ## Writing -/

theorem natOfDigits?_hexDigit {n : Nat} (h : n < 32) :
    natOfDigits? 16 ['0', '0', hexDigit (n / 16), hexDigit (n % 16)] = some n := by
  revert n
  decide

theorem spellsChar_escapeChar (c : Char) : SpellsChar c (escapeChar c) := by
  have short {x letter : Char} (is : c = x) (known : (x, letter) ∈ shortEscapes) :
      SpellsChar c ['\\', letter] := .short (is ▸ known)
  rw [escapeChar]
  by_cases quote : c = '"'
  · rw [if_pos quote]; exact short quote (by decide)
  by_cases backslash : c = '\\'
  · rw [if_neg quote, if_pos backslash]; exact short backslash (by decide)
  rw [if_neg quote, if_neg backslash]
  split
  · next feed => exact short feed (by decide)
  split
  · next carriage => exact short carriage (by decide)
  split
  · next tab => exact short tab (by decide)
  split
  · next backspace => exact short backspace (by decide)
  split
  · next form => exact short form (by decide)
  split
  · next control => exact .unit ⟨_, _, _, _, rfl, natOfDigits?_hexDigit control⟩
  · next visible => exact .plain quote backslash (Nat.not_lt.mp visible)

theorem spellsText_escape (text : List Char) : SpellsText text (text.flatMap escapeChar) := by
  induction text with
  | nil => exact .nil
  | cons c text ih => exact .cons (spellsChar_escapeChar c) ih

theorem blank_lineBreak (depth : Nat) : Blank (lineBreak depth) := by
  intro c member
  rcases List.mem_cons.mp member with rfl | space
  · rfl
  · rw [List.eq_of_mem_replicate space]
    rfl

theorem spellsName_quote (depth : Nat) (name : String) :
    SpellsName name (lineBreak depth ++ quote name ++ [':']) :=
  ⟨lineBreak depth, _, [], blank_lineBreak depth, spellsText_escape name.toList, .nil,
    by simp [quote]⟩

/-- All numbers of the value are ones that a word holds. -/
inductive Worded : Value → Prop
  | null : Worded .null
  | bool (b : Bool) : Worded (.bool b)
  | nat {n : Nat} (fits : n ≤ wordMax) : Worded (.nat n)
  | string (s : String) : Worded (.string s)
  | array {vs : List Value} (each : ∀ v ∈ vs, Worded v) : Worded (.array vs)
  | object {members : List (String × Value)} (each : ∀ m ∈ members, Worded m.2) :
      Worded (.object members)

theorem spells_elements {depth : Nat} {vs : List Value} {v : Value}
    (each : ∀ w ∈ v :: vs, Spells (.value w) (render depth w)) (depth' : Nat) :
    Spells (.elements (v :: vs)) (lineBreak depth ++ render depth v ++ renderElements depth vs ++
      lineBreak depth' ++ [']']) := by
  have first := each v List.mem_cons_self
  induction vs generalizing v with
  | nil =>
    rw [renderElements, List.append_nil]
    exact .lastElement (.padded (blank_lineBreak depth) first (blank_lineBreak depth'))
  | cons w vs ih =>
    have rest : ∀ u ∈ w :: vs, Spells (.value u) (render depth u) := fun u member =>
      each u (List.mem_cons_of_mem v member)
    have written := (Spells.padded (blank_lineBreak depth) first .nil).element
      (ih rest (rest w List.mem_cons_self))
    simpa [renderElements] using written

theorem spells_members {depth : Nat} {members : List (String × Value)} {name : String} {v : Value}
    (each : ∀ m ∈ (name, v) :: members, Spells (.value m.2) (render depth m.2)) (depth' : Nat) :
    Spells (.members ((name, v) :: members)) (lineBreak depth ++ quote name ++ [':', ' '] ++
      render depth v ++ renderMembers depth members ++ lineBreak depth' ++ ['\x7d']) := by
  have space : Blank [' '] := List.forall_mem_singleton.mpr rfl
  have named := spellsName_quote depth name
  have first := each (name, v) List.mem_cons_self
  induction members generalizing name v with
  | nil =>
    have written := Spells.lastMember named (.padded space first (blank_lineBreak depth'))
    simpa [renderMembers] using written
  | cons m members ih =>
    have rest : ∀ m' ∈ m :: members, Spells (.value m'.2) (render depth m'.2) := fun m' member =>
      each m' (List.mem_cons_of_mem (name, v) member)
    have written := Spells.member named (.padded space first .nil)
      (ih rest (spellsName_quote depth m.1) (rest m List.mem_cons_self))
    simpa [renderMembers] using written

/-- The writer spells what it writes, at any depth. -/
theorem Worded.spells {v : Value} (h : Worded v) (depth : Nat) :
    Spells (.value v) (render depth v) := by
  induction h generalizing depth with
  | null => exact .null
  | bool b => cases b <;> exact .bool _
  | @nat n fits =>
    have written : render depth (.nat n) = (toString n).toList := rfl
    have digits : (toString n).toList = Nat.toDigits 10 n := by simp
    rw [written, digits]
    exact .nat fits
  | string s => exact .string (spellsText_escape s.toList)
  | @array vs each ih =>
    cases vs with
    | nil => exact .emptyArray .nil
    | cons v vs =>
      exact .array (spells_elements (fun w member => ih w member (depth + 1)) depth)
  | @object members each ih =>
    cases members with
    | nil => exact .emptyObject .nil
    | cons m members =>
      exact .object (spells_members (fun m' member => ih m' member (depth + 1)) depth)

theorem Worded.document {v : Value} (h : Worded v) : Document (v.text ++ "\n") v := by
  have feed : Blank ['\n'] := List.forall_mem_singleton.mpr rfl
  have written := Spells.padded .nil (h.spells 0) feed
  have text : (v.text ++ "\n").toList = [] ++ render 0 v ++ ['\n'] := by simp [Value.text]
  rwa [Document, text]

end LintRepair.Json

namespace LintRepair

/-! ## Passes -/

/-- The numbers of a finding are ones that a word holds. -/
def Finding.InWords (f : Finding) : Prop := f.line ≤ wordMax ∧ f.column ≤ wordMax

def IssueCount.InWords (c : IssueCount) : Prop := c.warnings ≤ wordMax ∧ c.errors ≤ wordMax

theorem Kind.ofJson?_toJson (k : Kind) : ofJson? k.toJson = some k := by
  cases k <;> decide

namespace Finding

theorem worded_toJson {f : Finding} (h : f.InWords) : Json.Worded f.toJson := by
  have captured : Json.Worded ((f.captured.map Json.Value.string).getD .null) := by
    cases f.captured with
    | none => exact .null
    | some name => exact .string name
  refine .object ?_
  simp only [List.forall_mem_cons, List.not_mem_nil, false_imp_iff, implies_true, and_true]
  exact ⟨captured, .nat h.2, .string _, .string _, .nat h.1⟩

theorem ofJson?_toJson {f : Finding} (h : f.InWords) : ofJson? f.toJson = some f := by
  have kind : f.toJson.field? "kind" = some f.kind.toJson := rfl
  have file : f.toJson.field? "file" = some (.string f.file.text) := rfl
  have line : f.toJson.field? "line" = some (.nat f.line) := rfl
  have column : f.toJson.field? "column" = some (.nat f.column) := rfl
  have captured : optionalText? (f.toJson.field? "captured") = some f.captured := by
    obtain ⟨_, _, _, _, _ | name⟩ := f <;> rfl
  have words : word? (.nat f.line) = some f.line ∧ word? (.nat f.column) = some f.column :=
    ⟨if_pos h.1, if_pos h.2⟩
  simp only [ofJson?, kind, file, line, column, captured, Kind.ofJson?_toJson, text?, words,
    Option.bind_eq_bind, Option.bind_some, Option.pure_def]

theorem mapM_ofJson?_toJson {findings : List Finding} (each : ∀ f ∈ findings, f.InWords) :
    (findings.map toJson).mapM ofJson? = some findings := by
  induction findings with
  | nil => rfl
  | cons f findings ih =>
    rw [List.forall_mem_cons] at each
    simp [ofJson?_toJson each.1, ih each.2]

end Finding

namespace IssueCount

theorem worded_toJson {c : IssueCount} (h : c.InWords) : Json.Worded c.toJson := by
  refine .object ?_
  simp only [List.forall_mem_cons, List.not_mem_nil, false_imp_iff, implies_true, and_true]
  exact ⟨.nat h.2, .nat h.1⟩

theorem ofJson?_toJson {c : IssueCount} (h : c.InWords) : ofJson? c.toJson = some c := by
  have warnings : c.toJson.field? "warnings" = some (.nat c.warnings) := rfl
  have errors : c.toJson.field? "errors" = some (.nat c.errors) := rfl
  simp [ofJson?, warnings, errors, Finding.word?, Json.Value.nat, h.1, h.2]

end IssueCount

namespace Pass

theorem worded_toJson {p : Pass} (each : ∀ f ∈ p.findings, f.InWords) (counted : p.count.InWords) :
    Json.Worded p.toJson := by
  have findings : Json.Worded (.array (p.findings.map Finding.toJson)) :=
    .array (List.forall_mem_map.mpr fun f member => Finding.worded_toJson (each f member))
  refine .object ?_
  simp only [List.forall_mem_cons, List.not_mem_nil, false_imp_iff, implies_true, and_true]
  exact ⟨findings, IssueCount.worded_toJson counted⟩

/-- A pass in JSON is a document with one value. In this value stand the findings, in their order,
and the count. -/
theorem json_read_back (color : Bool) (p : Pass) (each : ∀ f ∈ p.findings, f.InWords)
    (counted : p.count.InWords) : ∃ v found issues,
      (∀ w, Json.Document (Print.passText color "json" p) w ↔ w = v) ∧
      Json.read? (Print.passText color "json" p) = some v ∧
      v.field? "findings" = some (.array found) ∧
      found.mapM Finding.ofJson? = some p.findings ∧
      v.field? "issues" = some issues ∧ IssueCount.ofJson? issues = some p.count := by
  have document : Json.Document (Print.passText color "json" p) p.toJson :=
    (worded_toJson each counted).document
  refine ⟨p.toJson, p.findings.map Finding.toJson, p.count.toJson, fun w => ⟨fun other => ?_, ?_⟩,
    document.read?, rfl, Finding.mapM_ofJson?_toJson each, rfl, IssueCount.ofJson?_toJson counted⟩
  · exact Option.some.inj (other.read?.symm.trans document.read?)
  · rintro rfl
    exact document

/-- Names with quotes, backslashes, control and other characters, numbers at the limit, and a finding
without a name. -/
theorem json_read_back_escapes : ∃ p : Pass,
    p = ⟨[⟨.unusedParameter, ⟨"\"a\\b\n\x01/é😀.ts"⟩, wordMax, 0, some "\t\x7f\x1f"⟩,
      ⟨.unusedCatchBinding, ⟨""⟩, 1, wordMax, none⟩], ⟨wordMax, 1⟩⟩ ∧
    (∀ f ∈ p.findings, f.InWords) ∧ p.count.InWords ∧
    ∃ v found, Json.read? (Print.passText true "json" p) = some v ∧
      v.field? "findings" = some (.array found) ∧
      found.mapM Finding.ofJson? = some p.findings := by
  refine ⟨_, rfl, and_assoc.mp (and_iff_left_of_imp ?_ |>.mpr ⟨?_, ?_⟩)⟩
  · rintro ⟨each, counted⟩
    obtain ⟨v, found, _, _, read, findings, all, _⟩ := json_read_back true _ each counted
    exact ⟨v, found, read, findings, all⟩
  · simp only [List.forall_mem_cons, List.not_mem_nil, false_imp_iff, implies_true, and_true]
    exact ⟨⟨by decide, by decide⟩, ⟨by decide, by decide⟩⟩
  · exact ⟨by decide, by decide⟩

end Pass

end LintRepair
