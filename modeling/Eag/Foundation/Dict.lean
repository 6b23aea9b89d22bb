/-
  Eag.Foundation.Dict

  An insertion-ordered map, as Python's dict is: a new key goes to the end, a
  key that is already there keeps its place and takes the new value.  The
  distinctness of the keys is a field.

  A collection filed under a key of its elements (`keyed`) holds the last
  element of every key: all of them exactly when the key tells the elements apart.
-/

import Mathlib.Data.List.Basic
import Mathlib.Data.List.Induction
import Mathlib.Data.List.Nodup
import Mathlib.Data.List.Perm.Basic

namespace Eag.Foundation

variable {κ ν α : Type _}

/-- A map with the order in which its keys came. -/
structure Dict (κ ν : Type _) where
  items : List (κ × ν)
  keys_nodup : (items.map Prod.fst).Nodup

namespace Dict

def empty : Dict κ ν := ⟨[], List.nodup_nil⟩

def keys (d : Dict κ ν) : List κ := d.items.map Prod.fst

def values (d : Dict κ ν) : List ν := d.items.map Prod.snd

@[simp] theorem items_empty : (empty : Dict κ ν).items = [] := rfl

@[simp] theorem mem_keys {d : Dict κ ν} {k : κ} : k ∈ d.keys ↔ ∃ v, (k, v) ∈ d.items := by
  simp [keys]

@[simp] theorem mem_values {d : Dict κ ν} {v : ν} : v ∈ d.values ↔ ∃ k, (k, v) ∈ d.items := by
  simp [values]

/-- One key has one value. -/
theorem value_unique {d : Dict κ ν} {k : κ} {v w : ν} (hv : (k, v) ∈ d.items)
    (hw : (k, w) ∈ d.items) : v = w :=
  congrArg Prod.snd (List.inj_on_of_nodup_map d.keys_nodup hv hw rfl)

variable [DecidableEq κ]

/-- The value filed under a key. -/
def get? (d : Dict κ ν) (k : κ) : Option ν :=
  (d.items.find? fun item => item.1 = k).map Prod.snd

theorem get?_eq_some {d : Dict κ ν} {k : κ} {v : ν} : d.get? k = some v ↔ (k, v) ∈ d.items := by
  unfold get?
  constructor
  · intro h
    obtain ⟨item, hfind, rfl⟩ := Option.map_eq_some_iff.mp h
    have hkey : item.1 = k := by simpa using List.find?_some hfind
    rw [← hkey]
    exact List.mem_of_find?_eq_some hfind
  · intro h
    cases hfind : d.items.find? (fun item => item.1 = k) with
    | none =>
        rw [List.find?_eq_none] at hfind
        exact absurd (decide_eq_true rfl) (hfind _ h)
    | some item =>
        have hkey : item.1 = k := by simpa using List.find?_some hfind
        have hmem : (k, item.2) ∈ d.items := by
          rw [← hkey]
          exact List.mem_of_find?_eq_some hfind
        rw [Option.map_some, value_unique hmem h]

theorem get?_eq_none {d : Dict κ ν} {k : κ} : d.get? k = none ↔ k ∉ d.keys := by
  rw [mem_keys, Option.eq_none_iff_forall_ne_some]
  constructor
  · rintro h ⟨v, hv⟩
    exact h v (get?_eq_some.mpr hv)
  · intro h v hv
    exact h ⟨v, get?_eq_some.mp hv⟩

/-! ## Assignment -/

/-- The items after `d[k] = v`. -/
def setItems : List (κ × ν) → κ → ν → List (κ × ν)
  | [], k, v => [(k, v)]
  | item :: rest, k, v =>
      if item.1 = k then (k, v) :: rest else item :: setItems rest k v

theorem keys_setItems (items : List (κ × ν)) (k : κ) (v : ν) :
    (setItems items k v).map Prod.fst
      = if k ∈ items.map Prod.fst then items.map Prod.fst else items.map Prod.fst ++ [k] := by
  induction items with
  | nil => rfl
  | cons item rest ih =>
      by_cases hkey : item.1 = k
      · simp [setItems, hkey]
      · have hne : ¬ k = item.1 := fun h => hkey h.symm
        simp only [setItems, if_neg hkey, List.map_cons, ih, List.mem_cons, hne, false_or]
        split <;> rfl

/-- `d[k] = v`. -/
def set (d : Dict κ ν) (k : κ) (v : ν) : Dict κ ν where
  items := setItems d.items k v
  keys_nodup := by
    rw [keys_setItems]
    split
    · exact d.keys_nodup
    · rename_i hnew
      exact List.nodup_append.mpr ⟨d.keys_nodup, List.nodup_singleton k,
        fun a ha b hb => by
          rw [List.mem_singleton.mp hb]
          exact fun h => hnew (h ▸ ha)⟩

theorem mem_setItems {items : List (κ × ν)} (hnodup : (items.map Prod.fst).Nodup) {k : κ} {v : ν}
    {item : κ × ν} :
    item ∈ setItems items k v ↔ item = (k, v) ∨ item ∈ items ∧ item.1 ≠ k := by
  induction items with
  | nil => simp [setItems]
  | cons first rest ih =>
      rw [List.map_cons, List.nodup_cons] at hnodup
      by_cases hkey : first.1 = k
      · have hrest : ∀ other ∈ rest, other.1 ≠ k := by
          intro other hother h
          exact hnodup.1 (hkey.trans h.symm ▸ List.mem_map_of_mem hother)
        simp only [setItems, if_pos hkey, List.mem_cons]
        constructor
        · rintro (h | h)
          · exact .inl h
          · exact .inr ⟨.inr h, hrest item h⟩
        · rintro (h | ⟨rfl | h, hne⟩)
          · exact .inl h
          · exact absurd hkey hne
          · exact .inr h
      · simp only [setItems, if_neg hkey, List.mem_cons, ih hnodup.2]
        constructor
        · rintro (rfl | h | ⟨h, hne⟩)
          · exact .inr ⟨.inl rfl, hkey⟩
          · exact .inl h
          · exact .inr ⟨.inr h, hne⟩
        · rintro (h | ⟨rfl | h, hne⟩)
          · exact .inr (.inl h)
          · exact .inl rfl
          · exact .inr (.inr ⟨h, hne⟩)

/-- What is in the map after an assignment. -/
theorem mem_set {d : Dict κ ν} {k : κ} {v : ν} {item : κ × ν} :
    item ∈ (d.set k v).items ↔ item = (k, v) ∨ item ∈ d.items ∧ item.1 ≠ k :=
  mem_setItems d.keys_nodup

theorem mem_keys_set {d : Dict κ ν} {k other : κ} {v : ν} :
    other ∈ (d.set k v).keys ↔ other ∈ d.keys ∨ other = k := by
  rw [keys, set, keys_setItems]
  split
  · rename_i hmem
    constructor
    · exact .inl
    · rintro (h | rfl)
      · exact h
      · exact hmem
  · rw [List.mem_append, List.mem_singleton]
    exact Iff.rfl

/-- Assign one pair after another. -/
def update (d : Dict κ ν) (pairs : List (κ × ν)) : Dict κ ν :=
  pairs.foldl (fun d pair => d.set pair.1 pair.2) d

@[simp] theorem update_nil (d : Dict κ ν) : d.update [] = d := rfl

@[simp] theorem update_cons (d : Dict κ ν) (pair : κ × ν) (pairs : List (κ × ν)) :
    d.update (pair :: pairs) = (d.set pair.1 pair.2).update pairs := rfl

theorem update_append (d : Dict κ ν) (first second : List (κ × ν)) :
    d.update (first ++ second) = (d.update first).update second :=
  List.foldl_append

/-- The pair is the last of its key. -/
def LastOfKey (pairs : List (κ × ν)) (pair : κ × ν) : Prop :=
  ∃ before after, pairs = before ++ pair :: after ∧ ∀ later ∈ after, later.1 ≠ pair.1

omit [DecidableEq κ] in
theorem LastOfKey.mem {pairs : List (κ × ν)} {pair : κ × ν} (h : LastOfKey pairs pair) :
    pair ∈ pairs := by
  obtain ⟨before, after, rfl, -⟩ := h
  simp

omit [DecidableEq κ] in
theorem lastOfKey_cons {first pair : κ × ν} {pairs : List (κ × ν)} :
    LastOfKey (first :: pairs) pair
      ↔ LastOfKey pairs pair ∨ pair = first ∧ ∀ later ∈ pairs, later.1 ≠ pair.1 := by
  constructor
  · rintro ⟨before, after, hpairs, hlater⟩
    cases before with
    | nil =>
        obtain ⟨rfl, rfl⟩ := List.cons.inj hpairs
        exact .inr ⟨rfl, hlater⟩
    | cons head before =>
        obtain ⟨rfl, rfl⟩ := List.cons.inj hpairs
        exact .inl ⟨before, after, rfl, hlater⟩
  · rintro (⟨before, after, rfl, hlater⟩ | ⟨rfl, hlater⟩)
    · exact ⟨first :: before, after, rfl, hlater⟩
    · exact ⟨[], pairs, rfl, hlater⟩

/-- **A run of assignments.**  The last pair of every assigned key, and the
    items whose key was not assigned. -/
theorem mem_update {d : Dict κ ν} {pairs : List (κ × ν)} {item : κ × ν} :
    item ∈ (d.update pairs).items
      ↔ LastOfKey pairs item ∨ item ∈ d.items ∧ ∀ pair ∈ pairs, pair.1 ≠ item.1 := by
  induction pairs generalizing d with
  | nil =>
      have hnone : ¬ LastOfKey [] item := fun h => nomatch h.mem
      simp [hnone]
  | cons first rest ih =>
      rw [update_cons, ih, mem_set, lastOfKey_cons]
      constructor
      · rintro (h | ⟨rfl | ⟨h, hne⟩, hlater⟩)
        · exact .inl (.inl h)
        · exact .inl (.inr ⟨rfl, hlater⟩)
        · exact .inr ⟨h, List.forall_mem_cons.mpr ⟨fun heq => hne heq.symm, hlater⟩⟩
      · rintro ((h | ⟨rfl, hlater⟩) | ⟨h, hlater⟩)
        · exact .inl h
        · exact .inr ⟨.inl rfl, hlater⟩
        · obtain ⟨hfirst, hrest⟩ := List.forall_mem_cons.mp hlater
          exact .inr ⟨.inr ⟨h, fun heq => hfirst heq.symm⟩, hrest⟩

theorem setItems_of_not_mem {items : List (κ × ν)} {k : κ} {v : ν}
    (h : k ∉ items.map Prod.fst) : setItems items k v = items ++ [(k, v)] := by
  induction items with
  | nil => rfl
  | cons item rest ih =>
      rw [List.map_cons, List.mem_cons, not_or] at h
      rw [setItems, if_neg (Ne.symm h.1), ih h.2, List.cons_append]

/-- Pairs whose keys are new and distinct are appended as they are. -/
theorem items_update {d : Dict κ ν} {pairs : List (κ × ν)}
    (h : (d.keys ++ pairs.map Prod.fst).Nodup) : (d.update pairs).items = d.items ++ pairs := by
  induction pairs generalizing d with
  | nil => exact (List.append_nil _).symm
  | cons pair rest ih =>
      have hnew : pair.1 ∉ d.keys := by
        rw [List.map_cons, List.nodup_append] at h
        exact fun hmem => h.2.2 _ hmem _ List.mem_cons_self rfl
      have hitems : (d.set pair.1 pair.2).items = d.items ++ [pair] := setItems_of_not_mem hnew
      rw [update_cons, ih, hitems, List.append_assoc, List.singleton_append]
      unfold keys at h ⊢
      rw [hitems]
      simpa using h

theorem items_update_empty {pairs : List (κ × ν)} (h : (pairs.map Prod.fst).Nodup) :
    (empty.update pairs : Dict κ ν).items = pairs :=
  items_update h

/-- A map updated by another has the values of that one, and its own elsewhere. -/
theorem get?_update_items (d other : Dict κ ν) (k : κ) :
    (d.update other.items).get? k = (other.get? k).or (d.get? k) := by
  have hlast : ∀ v, LastOfKey other.items (k, v) ↔ other.get? k = some v := by
    intro v
    rw [get?_eq_some]
    refine ⟨LastOfKey.mem, fun hmem => ?_⟩
    obtain ⟨before, after, hitems⟩ := List.append_of_mem hmem
    refine ⟨before, after, hitems, fun later hlater hkey => ?_⟩
    have hnodup := other.keys_nodup
    rw [hitems, List.map_append, List.map_cons, List.nodup_middle, List.nodup_cons] at hnodup
    exact hnodup.1 (hkey ▸ List.mem_append_right _ (List.mem_map_of_mem hlater))
  ext v
  rw [get?_eq_some, mem_update, hlast]
  cases hother : other.get? k with
  | some w =>
      rw [Option.some_or]
      refine or_iff_left ?_
      rintro ⟨-, hnot⟩
      exact hnot (k, w) (get?_eq_some.mp hother) rfl
  | none =>
      rw [Option.none_or, get?_eq_some]
      have hkeys := get?_eq_none.mp hother
      refine ⟨fun h => (h.resolve_left nofun).1, fun h => .inr ⟨h, fun pair hpair hkey => ?_⟩⟩
      rw [← show pair.1 = k from hkey] at hkeys
      exact hkeys (List.mem_map_of_mem hpair)

/-! ## A collection filed under a key of its elements -/

/-- File the elements one after another, each under its key. -/
def keyed (key : α → κ) (xs : List α) : Dict κ α :=
  empty.update (xs.map fun x => (key x, x))

variable {key : α → κ}

theorem mem_keyed {xs : List α} {item : κ × α} :
    item ∈ (keyed key xs).items ↔ LastOfKey (xs.map fun x => (key x, x)) item := by
  simp [keyed, mem_update]

/-- Filing invents no element, and every element is under its own key. -/
theorem keyed_item {xs : List α} {item : κ × α} (h : item ∈ (keyed key xs).items) :
    item.2 ∈ xs ∧ item.1 = key item.2 := by
  obtain ⟨x, hx, rfl⟩ := List.mem_map.mp (mem_keyed.mp h).mem
  exact ⟨hx, rfl⟩

theorem mem_of_mem_values_keyed {xs : List α} {x : α} (h : x ∈ (keyed key xs).values) :
    x ∈ xs := by
  obtain ⟨k, hk⟩ := mem_values.mp h
  exact (keyed_item hk).1

/-- A filed collection holds one element of a key. -/
theorem values_keyed_inj {xs : List α} {x y : α} (hx : x ∈ (keyed key xs).values)
    (hy : y ∈ (keyed key xs).values) (h : key x = key y) : x = y := by
  obtain ⟨k, hk⟩ := mem_values.mp hx
  obtain ⟨l, hl⟩ := mem_values.mp hy
  have hkl : k = l := (keyed_item hk).2.trans (h.trans (keyed_item hl).2.symm)
  exact value_unique hk (hkl ▸ hl)

/-- The element is the last of its key. -/
def LastBy (key : α → κ) (xs : List α) (x : α) : Prop :=
  ∃ before after, xs = before ++ x :: after ∧ ∀ later ∈ after, key later ≠ key x

omit [DecidableEq κ] in
theorem LastBy.mem {xs : List α} {x : α} (h : LastBy key xs x) : x ∈ xs := by
  obtain ⟨before, after, rfl, -⟩ := h
  exact List.mem_append_right before List.mem_cons_self

/-- **The filed elements** are the last of their keys. -/
theorem mem_values_keyed {xs : List α} {x : α} :
    x ∈ (keyed key xs).values ↔ LastBy key xs x := by
  rw [mem_values]
  constructor
  · rintro ⟨k, h⟩
    have hk : k = key x := (keyed_item h).2
    obtain ⟨before, after, hmap, hlater⟩ := mem_keyed.mp h
    obtain ⟨before', rest, rfl, -, hrest⟩ := List.map_eq_append_iff.mp hmap
    obtain ⟨y, after', rfl, hy, rfl⟩ := List.map_eq_cons_iff.mp hrest
    obtain ⟨-, rfl⟩ := Prod.mk.inj hy
    refine ⟨before', after', rfl, fun later hmem => ?_⟩
    rw [← hk]
    exact hlater _ (List.mem_map_of_mem hmem)
  · rintro ⟨before, after, rfl, hlater⟩
    refine ⟨key x, mem_keyed.mpr ⟨before.map fun x => (key x, x), after.map fun x => (key x, x),
      by rw [List.map_append, List.map_cons], ?_⟩⟩
    rintro _ hmem
    obtain ⟨later, hlaterMem, rfl⟩ := List.mem_map.mp hmem
    exact hlater later hlaterMem

omit [DecidableEq κ] in
/-- The last elements of a mapped list are the images of the last elements. -/
theorem lastBy_map {β : Type _} {f : β → α} {ys : List β} {x : α} :
    LastBy key (ys.map f) x ↔ ∃ y, LastBy (key ∘ f) ys y ∧ f y = x := by
  constructor
  · rintro ⟨before, after, hmap, hlater⟩
    obtain ⟨before', rest, rfl, -, hrest⟩ := List.map_eq_append_iff.mp hmap
    obtain ⟨y, after', rfl, rfl, rfl⟩ := List.map_eq_cons_iff.mp hrest
    exact ⟨y, ⟨before', after', rfl, fun later hmem => hlater _ (List.mem_map_of_mem hmem)⟩, rfl⟩
  · rintro ⟨y, ⟨before, after, rfl, hlater⟩, rfl⟩
    refine ⟨before.map f, after.map f, by rw [List.map_append, List.map_cons], ?_⟩
    rintro _ hmem
    obtain ⟨later, hlaterMem, rfl⟩ := List.mem_map.mp hmem
    exact hlater later hlaterMem

/-- The element filed last is there. -/
theorem mem_values_keyed_concat (xs : List α) (x : α) : x ∈ (keyed key (xs ++ [x])).values := by
  refine mem_values.mpr ⟨key x, mem_keyed.mpr ⟨xs.map fun x => (key x, x), [], ?_, ?_⟩⟩
  · simp
  · exact fun later h => nomatch h

/-- Every key of an element is a key of the filed collection. -/
theorem exists_mem_values_keyed {xs : List α} {x : α} (hx : x ∈ xs) :
    ∃ y ∈ (keyed key xs).values, key y = key x := by
  induction xs using List.reverseRecOn with
  | nil => exact nomatch hx
  | append_singleton xs last ih =>
      by_cases hkey : key last = key x
      · exact ⟨last, mem_values_keyed_concat xs last, hkey⟩
      · have hmem : x ∈ xs := by
          rcases List.mem_append.mp hx with h | h
          · exact h
          · exact absurd (congrArg key (List.mem_singleton.mp h).symm) hkey
        obtain ⟨y, hy, hyx⟩ := ih hmem
        obtain ⟨k, hk⟩ := mem_values.mp hy
        have hyk : k = key y := (keyed_item hk).2
        refine ⟨y, mem_values.mpr ⟨k, ?_⟩, hyx⟩
        rw [keyed, List.map_append, update_append]
        refine mem_set.mpr (.inr ⟨hk, ?_⟩)
        exact fun h => hkey (h.symm.trans (hyk.trans hyx))

/-- **No element is lost** exactly when the key tells the elements apart. -/
theorem keyed_complete_iff {xs : List α} :
    (∀ x ∈ xs, x ∈ (keyed key xs).values) ↔ ∀ x ∈ xs, ∀ y ∈ xs, key x = key y → x = y := by
  constructor
  · intro hall x hx y hy h
    exact values_keyed_inj (hall x hx) (hall y hy) h
  · intro hinj x hx
    obtain ⟨y, hy, hkey⟩ := @exists_mem_values_keyed _ _ _ key _ _ hx
    rw [hinj x hx y (mem_of_mem_values_keyed hy) hkey.symm]
    exact hy

theorem values_keyed_nodup (xs : List α) : (keyed key xs).values.Nodup := by
  have hkeys : (keyed key xs).values.map key = (keyed key xs).keys := by
    rw [values, keys, List.map_map]
    exact List.map_congr_left fun item h => (keyed_item h).2.symm
  exact List.Nodup.of_map key (hkeys ▸ (keyed key xs).keys_nodup)

/-- Where the key tells the elements apart, the order of filing only orders the values. -/
theorem values_keyed_perm {xs ys : List α} (hinj : ∀ x ∈ xs, ∀ y ∈ xs, key x = key y → x = y)
    (h : xs.Perm ys) : (keyed key xs).values.Perm (keyed key ys).values := by
  rw [List.perm_ext_iff_of_nodup (values_keyed_nodup xs) (values_keyed_nodup ys)]
  have hinj' : ∀ x ∈ ys, ∀ y ∈ ys, key x = key y → x = y := fun x hx y hy =>
    hinj x (h.mem_iff.mpr hx) y (h.mem_iff.mpr hy)
  intro x
  constructor
  · exact fun hx => keyed_complete_iff.mpr hinj' x (h.mem_iff.mp (mem_of_mem_values_keyed hx))
  · exact fun hx => keyed_complete_iff.mpr hinj x (h.mem_iff.mpr (mem_of_mem_values_keyed hx))

end Dict

/-! ## Lists with distinct keys -/

section Keyed

variable [DecidableEq κ] {key : α → κ}

omit [DecidableEq κ] in
/-- Two elements with one key are one element. -/
theorem eq_of_key_eq {xs : List α} (hnodup : (xs.map key).Nodup) {a b : α} (ha : a ∈ xs)
    (hb : b ∈ xs) (h : key a = key b) : a = b :=
  List.inj_on_of_nodup_map hnodup ha hb h

/-- The first element with the key of `a` is `a`. -/
theorem find?_key {xs : List α} (hnodup : (xs.map key).Nodup) {a : α} (ha : a ∈ xs) :
    xs.find? (fun b => key b = key a) = some a := by
  cases hfind : xs.find? (fun b => key b = key a) with
  | none =>
      rw [List.find?_eq_none] at hfind
      exact absurd (decide_eq_true rfl) (hfind a ha)
  | some b =>
      have hkey : key b = key a := by simpa using List.find?_some hfind
      rw [eq_of_key_eq hnodup (List.mem_of_find?_eq_some hfind) ha hkey]

/-! ## Lists of keys -/

omit [DecidableEq κ] in
/-- Looking up keys that are all there gives their elements, in that order. -/
theorem mapM_lookup {xs : List α} {lookup : κ → Option α}
    (hlookup : ∀ a ∈ xs, lookup (key a) = some a) {ks : List κ} (hks : ∀ k ∈ ks, k ∈ xs.map key) :
    ∃ as, ks.mapM lookup = some as ∧ as.map key = ks ∧ ∀ a ∈ as, a ∈ xs := by
  induction ks with
  | nil => exact ⟨[], rfl, rfl, nofun⟩
  | cons k rest ih =>
      obtain ⟨as, has, hmap, hmem⟩ := ih fun k hk => hks k (List.mem_cons_of_mem _ hk)
      obtain ⟨a, ha, rfl⟩ := List.mem_map.mp (hks k List.mem_cons_self)
      refine ⟨a :: as, ?_, ?_, List.forall_mem_cons.mpr ⟨ha, hmem⟩⟩
      · rw [List.mapM_cons, hlookup a ha, has]
        rfl
      · rw [List.map_cons, hmap]

omit [DecidableEq κ] in
/-- Elements with the keys of all elements are all elements. -/
theorem perm_of_map_key {xs as : List α} (hnodup : (xs.map key).Nodup) (hmem : ∀ a ∈ as, a ∈ xs)
    (hkeys : (as.map key).Perm (xs.map key)) : as.Perm xs := by
  have has : as.Nodup := List.Nodup.of_map _ (hkeys.nodup_iff.mpr hnodup)
  have hxs : xs.Nodup := List.Nodup.of_map _ hnodup
  refine (List.perm_ext_iff_of_nodup has hxs).mpr fun a => ⟨hmem a, fun ha => ?_⟩
  obtain ⟨b, hb, hkey⟩ := List.mem_map.mp (hkeys.mem_iff.mpr (List.mem_map_of_mem ha))
  rwa [← eq_of_key_eq hnodup (hmem b hb) ha hkey]

omit [DecidableEq κ] in
/-- Elements in the order of the same keys are the same. -/
theorem eq_of_map_key_eq {xs as bs : List α} (hnodup : (xs.map key).Nodup)
    (has : ∀ a ∈ as, a ∈ xs) (hbs : ∀ b ∈ bs, b ∈ xs) (h : as.map key = bs.map key) : as = bs := by
  induction as generalizing bs with
  | nil => exact (List.map_eq_nil_iff.mp h.symm).symm
  | cons a as ih =>
      cases bs with
      | nil => cases h
      | cons b bs =>
          obtain ⟨hkey, hrest⟩ := List.cons.inj h
          rw [eq_of_key_eq hnodup (has a List.mem_cons_self) (hbs b List.mem_cons_self) hkey,
            ih (fun a ha => has a (List.mem_cons_of_mem _ ha))
              (fun b hb => hbs b (List.mem_cons_of_mem _ hb)) hrest]

end Keyed

end Eag.Foundation
