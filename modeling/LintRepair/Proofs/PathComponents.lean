import LintRepair.Path.Scope
import Mathlib.Data.List.Basic

/-!
Paths by their components. A spelling is cut at its slashes, so the components
of a joined path are those of its parts. A normal form is the root or a run of
`..`, followed by plain names.
-/

namespace LintRepair.Path

theorem pieces_ne_nil (s : List Char) : pieces s ≠ [] := by
  cases s with
  | nil => simp [pieces]
  | cons c s =>
    simp only [pieces]
    split
    · simp
    · split <;> simp

theorem pieces_slash (s : List Char) : pieces ('/' :: s) = [] :: pieces s := by
  simp [pieces]

theorem pieces_cons {c : Char} {s piece : List Char} {rest : List (List Char)}
    (hc : c ≠ '/') (hs : pieces s = piece :: rest) : pieces (c :: s) = (c :: piece) :: rest := by
  simp [pieces, hc, hs]

/-- A slash cuts a spelling into parts that have nothing to do with each other. -/
theorem pieces_append (a b : List Char) : pieces (a ++ '/' :: b) = pieces a ++ pieces b := by
  induction a with
  | nil => simp [pieces]
  | cons c a ih =>
    by_cases hc : c = '/'
    · simp [hc, pieces_slash, ih]
    · obtain ⟨piece, rest, hp⟩ := List.exists_cons_of_ne_nil (pieces_ne_nil a)
      rw [List.cons_append, pieces_cons hc hp, pieces_cons hc (by rw [ih, hp]; rfl)]
      rfl

theorem pieces_of_no_slash {s : List Char} (h : '/' ∉ s) : pieces s = [s] := by
  induction s with
  | nil => rfl
  | cons c s ih =>
    simp only [List.mem_cons, not_or] at h
    exact pieces_cons (Ne.symm h.1) (ih h.2)

theorem no_slash_in_piece {s piece : List Char} (h : piece ∈ pieces s) : '/' ∉ piece := by
  induction s generalizing piece with
  | nil => simp_all [pieces]
  | cons c s ih =>
    by_cases hc : c = '/'
    · rw [hc, pieces_slash] at h
      rcases List.mem_cons.mp h with rfl | h
      · simp
      · exact ih h
    · obtain ⟨first, rest, hp⟩ := List.exists_cons_of_ne_nil (pieces_ne_nil s)
      rw [pieces_cons hc hp] at h
      rcases List.mem_cons.mp h with rfl | h
      · have inFirst : '/' ∉ first := ih (by simp [hp])
        simp [inFirst, Ne.symm hc]
      · exact ih (by simp [hp, h])

/-- Joining with slashes is undone by cutting at them. -/
theorem pieces_intercalate {ps : List (List Char)} (ne : ps ≠ []) (h : ∀ p ∈ ps, '/' ∉ p) :
    pieces (List.intercalate ['/'] ps) = ps := by
  induction ps with
  | nil => contradiction
  | cons p ps ih =>
    have hp : '/' ∉ p := h p List.mem_cons_self
    cases ps with
    | nil => simpa using pieces_of_no_slash hp
    | cons q ps =>
      have rest := ih (by simp) (fun r hr => h r (List.mem_cons_of_mem p hr))
      rw [List.intercalate_cons_cons, List.append_assoc, List.singleton_append, pieces_append,
        pieces_of_no_slash hp, rest]
      rfl

/-- What a component between slashes can be called. -/
def IsName (text : String) : Prop :=
  text.toList ≠ [] ∧ text.toList ≠ ['.'] ∧ text.toList ≠ ['.', '.'] ∧ '/' ∉ text.toList

theorem IsName.not_idle {text : String} (h : IsName text) : isIdle text.toList = false := by
  simp [isIdle, h.1, h.2.1]

theorem IsName.component? {text : String} (h : IsName text) :
    component? text.toList = some (.name text) := by
  simp [Path.component?, h.not_idle, h.2.2.1]

/-- One step behind the start of a path: up, or to a name. -/
def IsStep : Component → Prop
  | .parent => True
  | .name text => IsName text
  | .root | .here => False

theorem component?_isStep {piece : List Char} {c : Component} (hs : '/' ∉ piece)
    (h : component? piece = some c) : IsStep c := by
  unfold component? at h
  split at h
  · cases h
  · rename_i idle
    split at h
    · cases h; trivial
    · rename_i notParent
      cases h
      simp only [isIdle, Bool.or_eq_true, List.isEmpty_iff, beq_iff_eq, not_or] at idle
      simpa [IsStep, IsName] using ⟨idle.1, idle.2, notParent, hs⟩

/-- What the pieces of a path mean, apart from a root or a dot that it starts with. -/
def steps (p : Path) : List Component := (pieces p.text.toList).filterMap component?

theorem steps_isStep (p : Path) : ∀ c ∈ p.steps, IsStep c := by
  intro c hc
  obtain ⟨piece, hp, he⟩ := List.mem_filterMap.mp hc
  exact component?_isStep (no_slash_in_piece hp) he

/-- What a path starts with before its steps. -/
def lead (p : Path) : List Component :=
  if p.isAbsolute then [.root]
  else if (pieces p.text.toList).head? = some ['.'] then [.here]
  else []

theorem isAbsolute_iff {p : Path} : p.isAbsolute = true ↔ ∃ s, p.text.toList = '/' :: s := by
  unfold isAbsolute
  cases p.text.toList <;> simp

theorem components_eq (p : Path) : p.components = p.lead ++ p.steps := by
  unfold components lead
  split
  · rename_i s hs
    have absolute := isAbsolute_iff.mpr ⟨s, hs⟩
    simp [absolute, steps, hs, pieces_slash, component?, isIdle]
  · rename_i relative
    have notAbsolute : ¬ p.isAbsolute = true := by
      rw [isAbsolute_iff]
      rintro ⟨s, hs⟩
      exact relative s hs
    simp only [notAbsolute, Bool.false_eq_true, ↓reduceIte, steps]
    split
    · rename_i rest hp
      simp [hp, component?, isIdle]
    · rename_i hp
      have : (pieces p.text.toList).head? ≠ some ['.'] := by
        intro hd
        obtain ⟨rest, he⟩ := List.head?_eq_some_iff.mp hd
        exact hp rest he
      simp [this]

theorem mem_lead {p : Path} {c : Component} (h : c ∈ p.lead) : c = .root ∨ c = .here := by
  unfold lead at h
  split at h
  · simp_all
  · split at h <;> simp_all

theorem steps_eq_of_components {p q : Path} (h : p.components = q.components) :
    p.steps = q.steps := by
  have taken (p : Path) : p.components.filter (fun c => c ≠ .root ∧ c ≠ .here) = p.steps := by
    rw [components_eq, List.filter_append, List.filter_eq_nil_iff.mpr, List.nil_append,
      List.filter_eq_self.mpr]
    · intro c hc
      have := steps_isStep p c hc
      cases c <;> simp_all [IsStep]
    · intro c hc
      rcases mem_lead hc with rfl | rfl <;> simp
  rw [← taken p, ← taken q, h]

theorem isAbsolute_iff_root_mem {p : Path} : p.isAbsolute = true ↔ .root ∈ p.components := by
  rw [components_eq, List.mem_append]
  constructor
  · intro h
    simp [lead, h]
  · rintro (h | h)
    · unfold lead at h
      split at h
      · assumption
      · split at h <;> simp at h
    · exact (steps_isStep p _ h).elim

theorem isAbsolute_eq_of_components {p q : Path} (h : p.components = q.components) :
    p.isAbsolute = q.isAbsolute := by
  rw [Bool.eq_iff_iff, isAbsolute_iff_root_mem, isAbsolute_iff_root_mem, h]

/-- The two ways to join with a relative path: behind a slash that is there, or behind one that is
put in. -/
theorem join_text {p q : Path} (hp : p.text.toList ≠ []) (hq : q.isAbsolute = false) :
    ∃ a, (p.join q).text.toList = a ++ '/' :: q.text.toList ∧
      (p.text.toList = a ∨ p.text.toList = a ++ ['/']) := by
  have notEmpty : p.text.isEmpty = false := by
    simpa using hp
  unfold join
  simp only [hq, Bool.false_eq_true, ↓reduceIte, notEmpty, Bool.false_or]
  split
  · rename_i ends
    have last : p.text.toList.getLast? = some '/' := by simpa using ends
    obtain ⟨a, ha⟩ := List.getLast?_eq_some_iff.mp last
    exact ⟨a, by simp [ha], .inr ha⟩
  · exact ⟨p.text.toList, by simp, .inl rfl⟩

theorem components_join {p q : Path} (hp : p.text.toList ≠ []) (hq : q.isAbsolute = false) :
    (p.join q).components = p.components ++ q.steps := by
  obtain ⟨a, joined, own⟩ := join_text hp hq
  have step : (p.join q).steps = p.steps ++ q.steps := by
    rcases own with own | own
    · simp [steps, joined, own, pieces_append]
    · simp [steps, joined, own, pieces_append, pieces, component?, isIdle]
  have absolute : (p.join q).isAbsolute = p.isAbsolute := by
    unfold isAbsolute
    rw [joined]
    rcases own with own | own
    · cases a with
      | nil => exact absurd own hp
      | cons c a => simp [own]
    · cases a <;> simp [own]
  have start : (p.join q).lead = p.lead := by
    obtain ⟨first, rest, ha⟩ := List.exists_cons_of_ne_nil (pieces_ne_nil a)
    unfold lead
    rw [absolute, joined, pieces_append, ha]
    rcases own with own | own
    · simp [own, ha]
    · simp [own, pieces_append, ha]
  rw [components_eq, components_eq p, step, start, List.append_assoc]

/-! ## Spelling steps -/

theorem IsStep.no_slash {c : Component} (h : IsStep c) : '/' ∉ c.text.toList := by
  cases c with
  | root | here => exact h.elim
  | parent => decide
  | name text => exact h.2.2.2

theorem IsStep.not_idle {c : Component} (h : IsStep c) : isIdle c.text.toList = false := by
  cases c with
  | root | here => exact h.elim
  | parent => decide
  | name text => exact IsName.not_idle h

theorem IsStep.component? {c : Component} (h : IsStep c) : component? c.text.toList = some c := by
  cases c with
  | root | here => exact h.elim
  | parent => decide
  | name text => exact IsName.component? h

/-- A path is relative if its first piece means something. -/
theorem isRelative_of_pieces {p : Path} {piece : List Char} {rest : List (List Char)}
    (cut : pieces p.text.toList = piece :: rest) (busy : isIdle piece = false) :
    p.isAbsolute = false := by
  rw [Bool.eq_false_iff, Ne, isAbsolute_iff]
  rintro ⟨s, text⟩
  -- A leading slash would make the first piece an empty one.
  rw [text, pieces_slash, List.cons.injEq] at cut
  rw [← cut.1] at busy
  exact absurd busy (by decide)

theorem lead_of_pieces {p : Path} {piece : List Char} {rest : List (List Char)}
    (cut : pieces p.text.toList = piece :: rest) (busy : isIdle piece = false) : p.lead = [] := by
  have notDot : piece ≠ ['.'] := by
    rintro rfl
    exact absurd busy (by decide)
  simp [lead, isRelative_of_pieces cut busy, cut, notDot]

/-- The spelling of steps, with slashes between them. -/
def spelling (cs : List Component) : String := String.intercalate "/" (cs.map Component.text)

theorem pieces_spelling {cs : List Component} (hs : ∀ c ∈ cs, IsStep c) (ne : cs ≠ []) :
    pieces (spelling cs).toList = cs.map (·.text.toList) := by
  have noSlash : ∀ piece ∈ cs.map (·.text.toList), '/' ∉ piece := by
    simpa using fun c hc => (hs c hc).no_slash
  have text : (spelling cs).toList = List.intercalate ['/'] (cs.map (·.text.toList)) := by
    simp [spelling, String.toList_intercalate, Function.comp_def]
  rw [text, pieces_intercalate (by simpa using ne) noSlash]

/-- Steps are read back from their spelling. -/
theorem filterMap_pieces_spelling {cs : List Component} (hs : ∀ c ∈ cs, IsStep c) :
    (pieces (spelling cs).toList).filterMap component? = cs := by
  by_cases ne : cs = []
  · subst ne
    decide
  · rw [pieces_spelling hs ne, List.filterMap_map, List.filterMap_congr (g := some)]
    · exact List.filterMap_some
    · exact fun c hc => (hs c hc).component?

theorem components_rooted {cs : List Component} (hs : ∀ c ∈ cs, IsStep c) :
    (ofComponents (.root :: cs)).components = .root :: cs := by
  have text : (ofComponents (.root :: cs)).text.toList = '/' :: (spelling cs).toList := by
    simp [ofComponents, spelling]
  rw [components, text]
  exact congrArg _ (filterMap_pieces_spelling hs)

theorem components_unrooted {cs : List Component} (hs : ∀ c ∈ cs, IsStep c) :
    (ofComponents cs).components = cs := by
  cases cs with
  | nil => decide
  | cons c cs =>
    have first : IsStep c := hs c List.mem_cons_self
    have opened : ofComponents (c :: cs) = ⟨spelling (c :: cs)⟩ := by
      cases c with
      | root | here => exact first.elim
      | parent | name text => rfl
    have unled : (⟨spelling (c :: cs)⟩ : Path).lead = [] :=
      lead_of_pieces (pieces_spelling hs (by simp)) first.not_idle
    rw [opened, components_eq, unled, List.nil_append, steps]
    exact filterMap_pieces_spelling hs

/-! ## Places as paths -/

/-- The absolute path of a place in a file tree. -/
def ofPlace (place : List String) : Path := ofComponents (.root :: place.map .name)

theorem ofPlace_text (place : List String) :
    (ofPlace place).text.toList = '/' :: List.intercalate ['/'] (place.map String.toList) := by
  simp [ofPlace, ofComponents, String.toList_append, String.toList_intercalate, Function.comp_def,
    Component.text]

theorem ofPlace_isAbsolute (place : List String) : (ofPlace place).isAbsolute = true :=
  isAbsolute_iff.mpr ⟨_, ofPlace_text place⟩

/-- A place that the spelling of a path can name. -/
def IsPlace (place : List String) : Prop := ∀ name ∈ place, IsName name

theorem IsPlace.isStep {place : List String} (h : IsPlace place) :
    ∀ c ∈ place.map Component.name, IsStep c :=
  List.forall_mem_map.mpr h

theorem pieces_ofPlace {place : List String} (h : IsPlace place) (ne : place ≠ []) :
    pieces (ofPlace place).text.toList = [] :: place.map String.toList := by
  rw [ofPlace_text, pieces_slash, pieces_intercalate (by simpa using ne)]
  simpa using fun name hn => (h name hn).2.2.2

theorem components_ofPlace {place : List String} (h : IsPlace place) :
    (ofPlace place).components = .root :: place.map .name :=
  components_rooted h.isStep

/-! ## Normal forms -/

/-- What stands before the names of a normal form: the root, or the `..` that lead out of the place
where a relative path starts. -/
def normalLead (absolute : Bool) (ups : Nat) : List Component :=
  if absolute then [.root] else List.replicate ups .parent

theorem normalLead_reverse (absolute : Bool) (ups : Nat) :
    (normalLead absolute ups).reverse = normalLead absolute ups := by
  cases absolute <;> simp [normalLead]

theorem push_name (done : List Component) (text : String) :
    pushComponent done (.name text) = .name text :: done := by
  cases done with
  | nil => rfl
  | cons c done => cases c <;> rfl

theorem push_parent_lead (absolute : Bool) (ups : Nat) :
    ∃ ups', pushComponent (normalLead absolute ups) .parent = normalLead absolute ups' := by
  cases absolute with
  | true => exact ⟨ups, rfl⟩
  | false =>
    refine ⟨ups + 1, ?_⟩
    cases ups <;> rfl

/-- Steps taken from a normal form, its last name first, end at one: `..` takes a name back, stays at
the root and is kept where there is neither. -/
theorem foldl_push_steps (absolute : Bool) (steps : List Component) (hs : ∀ c ∈ steps, IsStep c)
    (ups : Nat) (names : List String) (hn : IsPlace names) :
    ∃ ups' names', IsPlace names' ∧
      steps.foldl pushComponent (names.map .name ++ normalLead absolute ups) =
        names'.map .name ++ normalLead absolute ups' := by
  induction steps generalizing ups names with
  | nil => exact ⟨ups, names, hn, rfl⟩
  | cons c steps ih =>
    have later : ∀ d ∈ steps, IsStep d := fun d hd => hs d (List.mem_cons_of_mem c hd)
    have first : IsStep c := hs c List.mem_cons_self
    cases c with
    | root | here => exact first.elim
    | parent =>
      cases names with
      | nil =>
        obtain ⟨ups', pushed⟩ := push_parent_lead absolute ups
        rw [List.foldl_cons, List.map_nil, List.nil_append, pushed]
        exact ih later ups' [] hn
      | cons name names => exact ih later ups names fun n h => hn n (List.mem_cons_of_mem name h)
    | name text =>
      rw [List.foldl_cons, push_name]
      exact ih later ups (text :: names) (List.forall_mem_cons.mpr ⟨first, hn⟩)

theorem foldl_push_components (p : Path) :
    p.components.foldl pushComponent [] =
      p.steps.foldl pushComponent (normalLead p.isAbsolute 0) := by
  rw [components_eq, List.foldl_append]
  congr 1
  unfold lead
  cases p.isAbsolute with
  | true => rfl
  | false =>
    simp only [Bool.false_eq_true, ↓reduceIte]
    split <;> rfl

/-- The normal form of a path is absolute or climbs as the path does, and then holds names only. -/
theorem normalComponents_components (p : Path) :
    ∃ ups names, IsPlace names ∧
      normalComponents p.components = normalLead p.isAbsolute ups ++ names.map .name := by
  obtain ⟨ups, names, hn, folded⟩ :=
    foldl_push_steps p.isAbsolute p.steps (steps_isStep p) 0 [] (by simp [IsPlace])
  refine ⟨ups, names.reverse, fun n h => hn n (List.mem_reverse.mp h), ?_⟩
  have start : normalLead p.isAbsolute 0 = [].map .name ++ normalLead p.isAbsolute 0 := rfl
  rw [normalComponents, foldl_push_components, start, folded, List.reverse_append,
    normalLead_reverse, List.map_reverse]

theorem foldl_push_names (names : List String) (done : List Component) :
    (names.map .name).foldl pushComponent done = (names.map .name).reverse ++ done := by
  induction names generalizing done with
  | nil => rfl
  | cons name names ih =>
    rw [List.map_cons, List.foldl_cons, push_name, ih, List.reverse_cons, List.append_assoc,
      List.singleton_append]

theorem foldl_push_lead (absolute : Bool) (ups : Nat) :
    (normalLead absolute ups).foldl pushComponent [] = normalLead absolute ups := by
  cases absolute with
  | true => rfl
  | false =>
    induction ups with
    | zero => rfl
    | succ ups ih =>
      have climbed : normalLead false (ups + 1) = normalLead false ups ++ [.parent] := by
        simp [normalLead, List.replicate_succ']
      rw [climbed, List.foldl_append, ih]
      cases ups with
      | zero => rfl
      | succ ups => simp [normalLead, pushComponent, List.replicate_succ, ← List.replicate_succ']

theorem normalComponents_normal (absolute : Bool) (ups : Nat) (names : List String) :
    normalComponents (normalLead absolute ups ++ names.map .name) =
      normalLead absolute ups ++ names.map .name := by
  rw [normalComponents, List.foldl_append, foldl_push_lead, foldl_push_names, List.reverse_append,
    List.reverse_reverse, normalLead_reverse]

/-- The normal form of an absolute path is the path of a place. -/
theorem normalize_absolute {p : Path} (h : p.isAbsolute = true) :
    ∃ place, IsPlace place ∧ p.normalize = ofPlace place := by
  obtain ⟨ups, names, hn, normal⟩ := normalComponents_components p
  rw [h] at normal
  exact ⟨names, hn, congrArg ofComponents normal⟩

/-- The path of a place is in normal form. -/
theorem normalize_ofPlace {place : List String} (h : IsPlace place) :
    (ofPlace place).normalize = ofPlace place := by
  rw [normalize, components_ofPlace h]
  exact congrArg ofComponents (normalComponents_normal true 0 place)

/-! ## Places below places -/

theorem startsWith_ofPlace {place root : List String} (hp : IsPlace place) (hr : IsPlace root) :
    (ofPlace place).startsWith (ofPlace root) = true ↔ root <+: place := by
  unfold startsWith
  rw [components_ofPlace hp, components_ofPlace hr, List.isPrefixOf_iff_prefix,
    List.cons_prefix_cons]
  constructor
  · rintro ⟨-, h⟩
    exact (List.prefix_map_iff_of_injective (fun a b h => by injection h)).mp h
  · rintro ⟨rest, rfl⟩
    exact ⟨rfl, rest.map .name, by simp⟩

theorem IsPlace.append {above below : List String} (hAbove : IsPlace above)
    (hBelow : IsPlace below) : IsPlace (above ++ below) := by
  intro name hn
  rcases List.mem_append.mp hn with hn | hn
  · exact hAbove name hn
  · exact hBelow name hn

theorem ofPlace_injOn {a b : List String} (ha : IsPlace a) (hb : IsPlace b)
    (h : ofPlace a = ofPlace b) : a = b := by
  have same := congrArg components h
  rw [components_ofPlace ha, components_ofPlace hb, List.cons.injEq] at same
  exact (List.map_inj_right fun _ _ eq => Component.name.inj eq).mp same.2

theorem intercalate_append {xs ys : List (List Char)} (hx : xs ≠ []) (hy : ys ≠ []) :
    List.intercalate ['/'] (xs ++ ys) =
      List.intercalate ['/'] xs ++ '/' :: List.intercalate ['/'] ys := by
  induction xs with
  | nil => contradiction
  | cons x xs ih =>
    cases xs with
    | nil =>
      obtain ⟨y, ys, rfl⟩ := List.exists_cons_of_ne_nil hy
      simp [List.intercalate_cons_cons]
    | cons x' xs =>
      rw [List.cons_append, List.cons_append, List.intercalate_cons_cons,
        List.intercalate_cons_cons, ← List.cons_append, ih (by simp)]
      simp

theorem pieces_names {names : List String} (h : IsPlace names) (ne : names ≠ []) :
    pieces (String.intercalate "/" names).toList = names.map String.toList := by
  simpa [spelling, Component.text, Function.comp_def] using
    pieces_spelling h.isStep (by simpa using ne)

theorem names_isRelative {names : List String} (h : IsPlace names) (ne : names ≠ []) :
    (⟨String.intercalate "/" names⟩ : Path).isAbsolute = false := by
  have cut := pieces_names h ne
  obtain ⟨name, rest, rfl⟩ := List.exists_cons_of_ne_nil ne
  exact isRelative_of_pieces cut (h name List.mem_cons_self).not_idle

theorem ofPlace_getLast? {place : List String} (h : IsPlace place) (ne : place ≠ []) :
    (ofPlace place).text.toList.getLast? ≠ some '/' := by
  intro ends
  -- A trailing slash would make the last piece an empty one.
  obtain ⟨text, cut⟩ := List.getLast?_eq_some_iff.mp ends
  have pieces_eq := pieces_ofPlace h ne
  rw [cut, pieces_append, show pieces [] = [[]] from rfl] at pieces_eq
  have last := congrArg List.getLast? pieces_eq
  rw [List.getLast?_concat, List.getLast?_cons, List.getLast?_map,
    List.getLast?_eq_some_getLast ne] at last
  exact (h _ (List.getLast_mem ne)).1 (Option.some.inj last).symm

/-- Names behind the path of a place make the path of a place below it. -/
theorem join_ofPlace {above below : List String} (h : IsPlace (above ++ below))
    (ne : below ≠ []) :
    (ofPlace above).join ⟨String.intercalate "/" below⟩ = ofPlace (above ++ below) := by
  have hAbove : IsPlace above := fun n hn => h n (List.mem_append_left below hn)
  have hBelow : IsPlace below := fun n hn => h n (List.mem_append_right above hn)
  have relative := names_isRelative hBelow ne
  have text : (String.intercalate "/" below).toList =
      List.intercalate ['/'] (below.map String.toList) := String.toList_intercalate
  have chars : ((ofPlace above).join ⟨String.intercalate "/" below⟩).text.toList =
      (ofPlace (above ++ below)).text.toList := by
    by_cases top : above = []
    · subst top
      simp [join, relative, ofPlace_text, text]
    · have behind := ofPlace_getLast? hAbove top
      have named : (ofPlace above).text ≠ "" := by
        intro empty
        have chars := ofPlace_text above
        simp [empty] at chars
      have joined : (ofPlace above).join ⟨String.intercalate "/" below⟩ =
          ⟨(ofPlace above).text ++ "/" ++ String.intercalate "/" below⟩ := by
        simp [join, relative, behind, named]
      rw [joined, ofPlace_text, List.map_append,
        intercalate_append (by simpa using top) (by simpa using ne)]
      simp [ofPlace_text, text]
  exact congrArg Path.mk (String.toList_inj.mp chars)

end LintRepair.Path
