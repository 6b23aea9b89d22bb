/-
  Eag.Foundation.PurePaths

  The names of a `PurePosixPath` and the text it gives back, which is a path of the same names,
  and `os.path.normpath`, which is that text unless a part of the path is `..`.

  `normpath` takes nothing but slashes and dots away from a text without such a part
  (`weight_normpath`), and two texts with such a part in neither have none when something that is
  no dot is put between them (`Undotted.between`).
-/

import Eag.Foundation.TextLines

namespace Eag.Foundation.PyText

/-- The names of a path: its parts without the root. -/
def posixNames (t : PyText) : List PyText :=
  (split (.scalar '/') t).filter fun name => name ≠ [] ∧ name ≠ [.scalar '.']

/-- `PurePosixPath(value).name`. -/
def posixName (t : PyText) : PyText := (posixNames t).getLastD []

/-- The name without what follows its last dot, unless the dot is the first or last of it. -/
def stemOf (name : PyText) : PyText :=
  let suffix := name.reverse.takeWhile (· ≠ .scalar '.')
  if suffix = [] ∨ name.length ≤ suffix.length + 1 then name
  else name.take (name.length - (suffix.length + 1))

/-- `PurePosixPath(value).stem`. -/
def posixStem (t : PyText) : PyText := stemOf (posixName t)

/-- `PurePosixPath(value).with_suffix("").as_posix()`, for a path with a name. -/
def withoutSuffix (t : PyText) : PyText :=
  posixRoot t ++ join (.scalar '/') ((posixNames t).dropLast ++ [posixStem t])

example : ["a/b.tar.gz", "a/.env", "a/b.", "a/b"].map (fun t => withoutSuffix (ofString t)) =
    ["a/b.tar", "a/.env", "a/b.", "a/b"].map ofString := by decide

theorem posixText_eq (t : PyText) :
    posixText t = if posixRoot t = [] ∧ posixNames t = [] then [.scalar '.']
      else posixRoot t ++ join (.scalar '/') (posixNames t) := rfl

/-- What the names of a path are like. -/
theorem mem_posixNames {t name : PyText} (h : name ∈ posixNames t) :
    name ≠ [] ∧ name ≠ [.scalar '.'] ∧ .scalar '/' ∉ name := by
  obtain ⟨hsplit, hname⟩ := List.mem_filter.mp h
  have hboth : name ≠ [] ∧ name ≠ [.scalar '.'] := of_decide_eq_true hname
  exact ⟨hboth.1, hboth.2, not_mem_of_mem_split hsplit⟩

/-- A root is read off a text that goes on with something else. -/
theorem posixRoot_append {root : PyText} {c : CodePoint} (hc : c ≠ .scalar '/') (t : PyText)
    (hroot : root = [] ∨ root = [.scalar '/'] ∨ root = [.scalar '/', .scalar '/']) :
    posixRoot (root ++ c :: t) = root := by
  rcases hroot with rfl | rfl | rfl
  · show posixRoot (c :: t) = []
    unfold posixRoot
    split
    · next h => exact absurd (List.cons.inj h).1 hc
    · next h => exact absurd (List.cons.inj h).1 hc
    · next h => exact absurd (List.cons.inj h).1 hc
    · rfl
  · show posixRoot (.scalar '/' :: c :: t) = _
    unfold posixRoot
    split
    · next h => exact absurd (List.cons.inj (List.cons.inj h).2).1 hc
    · next h => exact absurd (List.cons.inj (List.cons.inj h).2).1 hc
    · rfl
    · next h => exact absurd rfl (h _)
  · show posixRoot (.scalar '/' :: .scalar '/' :: c :: t) = _
    unfold posixRoot
    split
    · next h =>
        exact absurd (List.cons.inj (List.cons.inj (List.cons.inj h).2).2).1 hc
    · rfl
    · next hnot h => exact absurd (List.cons.inj h).2.symm (hnot _)
    · next h => exact absurd rfl (h _)

/-- A root adds no names. -/
theorem posixNames_append {root : PyText} (t : PyText)
    (hroot : root = [] ∨ root = [.scalar '/'] ∨ root = [.scalar '/', .scalar '/']) :
    posixNames (root ++ t) = posixNames t := by
  rcases hroot with rfl | rfl | rfl
  · rfl
  · simp [posixNames, split]
  · simp [posixNames, split]

/-- A text of names, after a root, has these names and this root. -/
theorem posix_of_names {root : PyText} {names : List PyText}
    (hroot : root = [] ∨ root = [.scalar '/'] ∨ root = [.scalar '/', .scalar '/'])
    (hnames : ∀ name ∈ names, name ≠ [] ∧ name ≠ [.scalar '.'] ∧ .scalar '/' ∉ name) :
    posixRoot (root ++ join (.scalar '/') names) = root ∧
      posixNames (root ++ join (.scalar '/') names) = names := by
  cases names with
  | nil =>
      rw [posixNames_append _ hroot]
      refine ⟨?_, rfl⟩
      rcases hroot with rfl | rfl | rfl <;> rfl
  | cons first rest =>
      have hfirst := hnames first List.mem_cons_self
      constructor
      · -- The first name starts with something other than a slash.
        cases first with
        | nil => exact absurd rfl hfirst.1
        | cons c name =>
            have hc : c ≠ .scalar '/' := fun h => hfirst.2.2 (h ▸ List.mem_cons_self)
            cases rest with
            | nil => exact posixRoot_append hc name hroot
            | cons next rest =>
                exact posixRoot_append hc (name ++ .scalar '/' :: join (.scalar '/') (next :: rest))
                  hroot
      · rw [posixNames_append _ hroot, posixNames,
          split_join (List.cons_ne_nil _ _) fun name hname => (hnames name hname).2.2]
        refine List.filter_eq_self.mpr fun name hname => ?_
        exact decide_eq_true ⟨(hnames name hname).1, (hnames name hname).2.1⟩

theorem posixRoot_cases (t : PyText) : posixRoot t = [] ∨ posixRoot t = [.scalar '/'] ∨
    posixRoot t = [.scalar '/', .scalar '/'] := by
  unfold posixRoot
  split <;> simp

/-- The text of a path is its own text. -/
theorem posixText_posixText (t : PyText) : posixText (posixText t) = posixText t := by
  rw [posixText_eq t]
  split
  · rfl
  · next h =>
      obtain ⟨hroot, hnames⟩ := posix_of_names (posixRoot_cases t)
        fun name hname => mem_posixNames hname
      rw [posixText_eq, hroot, hnames, if_neg h]

/-! ## `os.path.normpath` -/

/-- `".."`. -/
def parentPart : PyText := [.scalar '.', .scalar '.']

/-- One part in the loop of `os.path.normpath`; the parts that are kept come last first. -/
def normpathStep (rooted : Bool) (kept : List PyText) (part : PyText) : List PyText :=
  if part = [] ∨ part = [.scalar '.'] then kept
  else if part ≠ parentPart ∨ (rooted = false ∧ kept = []) ∨ kept.head? = some parentPart then
    part :: kept
  else kept.tail

/-- `os.path.normpath`, on POSIX. -/
def normpath (t : PyText) : PyText :=
  let root := posixRoot t
  let parts :=
    ((split (.scalar '/') t).foldl (normpathStep (decide (root ≠ []))) []).reverse
  let path := root ++ join (.scalar '/') parts
  if path = [] then [.scalar '.'] else path

/-- A text without a part `..`. -/
def Undotted (t : PyText) : Prop := parentPart ∉ split (.scalar '/') t

/-- Without `..` a part is kept unless it is empty or a dot. -/
theorem foldl_normpathStep (rooted : Bool) {parts : List PyText} (kept : List PyText)
    (h : parentPart ∉ parts) :
    parts.foldl (normpathStep rooted) kept =
      (parts.filter fun name => name ≠ [] ∧ name ≠ [.scalar '.']).reverse ++ kept := by
  induction parts generalizing kept with
  | nil => rfl
  | cons part rest ih =>
      have hpart : part ≠ parentPart := fun heq => h (heq ▸ List.mem_cons_self)
      have hrest : parentPart ∉ rest := fun hmem => h (List.mem_cons_of_mem _ hmem)
      rw [List.foldl_cons, ih _ hrest]
      by_cases hempty : part = [] ∨ part = [.scalar '.']
      · have hstep : normpathStep rooted kept part = kept := if_pos hempty
        have hdrop : ¬ (part ≠ [] ∧ part ≠ [.scalar '.']) := by
          rintro ⟨hne, hdot⟩
          exact hempty.elim hne hdot
        rw [hstep, List.filter_cons_of_neg (by simpa using hdrop)]
      · have hstep : normpathStep rooted kept part = part :: kept :=
          (if_neg hempty).trans (if_pos (.inl hpart))
        rw [hstep, List.filter_cons_of_pos (by simpa using not_or.mp hempty)]
        simp

theorem normpath_of_undotted {t : PyText} (h : Undotted t) :
    normpath t = if posixRoot t ++ join (.scalar '/') (posixNames t) = [] then [.scalar '.']
      else posixRoot t ++ join (.scalar '/') (posixNames t) := by
  show (if posixRoot t ++ join (.scalar '/') _ = [] then _ else _) = _
  rw [foldl_normpathStep _ [] h, List.append_nil, List.reverse_reverse]
  rfl

theorem join_append (separator : CodePoint) {front back : List PyText} (hfront : front ≠ [])
    (hback : back ≠ []) :
    join separator (front ++ back) = join separator front ++ separator :: join separator back := by
  induction front with
  | nil => exact absurd rfl hfront
  | cons piece rest ih =>
      cases rest with
      | nil =>
          obtain ⟨first, others, rfl⟩ := List.exists_cons_of_ne_nil hback
          rfl
      | cons next rest =>
          have hrest := ih (List.cons_ne_nil next rest)
          rw [List.cons_append, List.cons_append, join, ← List.cons_append, hrest, join]
          simp

/-- Joined texts with a text between them are joined. -/
theorem join_append_join (separator : CodePoint) (front : List PyText) (last between first : PyText)
    (rest : List PyText) :
    join separator (front ++ [last]) ++ (between ++ join separator (first :: rest)) =
      join separator (front ++ (last ++ between ++ first) :: rest) := by
  induction front with
  | nil =>
      cases rest with
      | nil => simp [join]
      | cons next rest => simp [join]
  | cons piece front ih =>
      cases hfront : front ++ [last] with
      | nil => exact absurd hfront (by simp)
      | cons a as =>
          cases hjoined : front ++ (last ++ between ++ first) :: rest with
          | nil => exact absurd hjoined (by simp)
          | cons b bs =>
              rw [List.cons_append, List.cons_append, hfront, hjoined, join, join, ← hfront,
                ← hjoined, ← ih]
              simp

/-- **Nothing that has a character other than a dot brings a part `..` about.** -/
theorem Undotted.between {a b between : PyText} (ha : Undotted a) (hb : Undotted b)
    (hslash : .scalar '/' ∉ between) (hmark : ∃ c ∈ between, c ≠ .scalar '.') :
    Undotted (a ++ (between ++ b)) := by
  obtain ⟨front, last, hfront⟩ :=
    List.eq_nil_or_concat' (split (.scalar '/') a) |>.resolve_left (split_ne_nil _ _)
  obtain ⟨first, rest, hrest⟩ := List.exists_cons_of_ne_nil (split_ne_nil (.scalar '/') b)
  have hparts : ∀ part ∈ front ++ [last], .scalar '/' ∉ part := fun part hpart =>
    not_mem_of_mem_split (hfront ▸ hpart)
  have hparts' : ∀ part ∈ first :: rest, .scalar '/' ∉ part := fun part hpart =>
    not_mem_of_mem_split (hrest ▸ hpart)
  have hmiddle : .scalar '/' ∉ last ++ between ++ first := by
    simp only [List.mem_append, not_or]
    exact ⟨⟨hparts last (by simp), hslash⟩, hparts' first (by simp)⟩
  have hsplit : split (.scalar '/') (a ++ (between ++ b)) =
      front ++ (last ++ between ++ first) :: rest := by
    rw [← join_split (.scalar '/') a, ← join_split (.scalar '/') b, hfront, hrest,
      join_append_join]
    refine split_join (by simp) fun part hpart => ?_
    rcases List.mem_append.mp hpart with hpart | hpart
    · exact hparts part (List.mem_append_left _ hpart)
    · rcases List.mem_cons.mp hpart with rfl | hpart
      · exact hmiddle
      · exact hparts' part (List.mem_cons_of_mem _ hpart)
  intro hmem
  rw [hsplit] at hmem
  rcases List.mem_append.mp hmem with hpart | hpart
  · exact ha (hfront ▸ List.mem_append_left _ hpart)
  · rcases List.mem_cons.mp hpart with hpart | hpart
    · -- The part around the text between the two has its character in it.
      obtain ⟨c, hc, hdot⟩ := hmark
      have hin : c ∈ parentPart := by
        rw [hpart]
        simp [hc]
      exact hdot (by simpa [parentPart] using hin)
    · exact hb (hrest ▸ List.mem_cons_of_mem _ hpart)

/-- A character that is no part of how a path is written. -/
def isNameCharacter (c : CodePoint) : Bool :=
  c ≠ .scalar '/' && c ≠ .scalar '.' && c ≠ .scalar '\\'

/-- How many characters of a text are no part of how a path is written. -/
def weight (t : PyText) : Nat := t.countP isNameCharacter

@[simp] theorem weight_nil : weight [] = 0 := rfl

@[simp] theorem weight_append (a b : PyText) : weight (a ++ b) = weight a + weight b :=
  List.countP_append

theorem weight_cons (c : CodePoint) (t : PyText) :
    weight (c :: t) = weight [c] + weight t := weight_append [c] t

theorem weight_join (pieces : List PyText) :
    weight (join (.scalar '/') pieces) = (pieces.map weight).sum := by
  induction pieces with
  | nil => rfl
  | cons piece rest ih =>
      cases rest with
      | nil => simp [join]
      | cons next rest =>
          have hslash : weight [.scalar '/'] = 0 := by decide
          rw [join, weight_append, weight_cons, hslash, ih]
          show _ = weight piece + ((next :: rest).map weight).sum
          omega

/-- The names of a path weigh what its text does. -/
theorem weight_posixNames (t : PyText) :
    weight (join (.scalar '/') (posixNames t)) = weight t := by
  have hdropped : ∀ parts : List PyText,
      ((parts.filter fun name => name ≠ [] ∧ name ≠ [.scalar '.']).map weight).sum =
        (parts.map weight).sum := by
    intro parts
    induction parts with
    | nil => rfl
    | cons part rest ih =>
        by_cases hkept : part ≠ [] ∧ part ≠ [.scalar '.']
        · rw [List.filter_cons_of_pos (by simpa using hkept), List.map_cons, List.sum_cons, ih,
            List.map_cons, List.sum_cons]
        · have hweight : weight part = 0 := by
            rcases Decidable.not_and_iff_or_not.mp hkept with h | h
            · rw [not_not.mp h]
              rfl
            · rw [not_not.mp h]
              decide
          rw [List.filter_cons_of_neg (by simpa using hkept), ih, List.map_cons, List.sum_cons,
            hweight, Nat.zero_add]
  rw [weight_join, posixNames, hdropped, ← weight_join, join_split]

/-- **Normalizing a path without `..` takes only slashes and dots away.** -/
theorem weight_normpath {t : PyText} (h : Undotted t) : weight (normpath t) = weight t := by
  have hroot : weight (posixRoot t) = 0 := by
    rcases posixRoot_cases t with h | h | h <;> rw [h] <;> decide
  have hpath : weight (posixRoot t ++ join (.scalar '/') (posixNames t)) = weight t := by
    rw [weight_append, hroot, weight_posixNames, Nat.zero_add]
  rw [normpath_of_undotted h]
  split
  · next hempty =>
      rw [hempty] at hpath
      exact hpath
  · exact hpath

end Eag.Foundation.PyText
