/-
  Eag.Foundation.JsonObjects

  Decoded values looked at as trees: every object that `json.loads` builds has each
  key once (`wellKeyed_of_loads`), what some object at any depth has among its keys
  (`holdsKey`), and what every string and every member at any depth is (`AllTexts`,
  `EachMember`).
-/

import Eag.Foundation.JsonDecoder

namespace Eag.Foundation

/-! ## Each key once -/

mutual

/-- Every object inside the value has each of its keys once. -/
def PyValue.WellKeyed : PyValue → Prop
  | .dict entries => entries.keys.Nodup ∧ entries.WellKeyed
  | .list items => items.WellKeyed
  | _ => True

/-- The same for the items of an array. -/
def PyItems.WellKeyed : PyItems → Prop
  | .nil => True
  | .cons item rest => item.WellKeyed ∧ rest.WellKeyed

/-- The same for the values of an object. -/
def PyEntries.WellKeyed : PyEntries → Prop
  | .nil => True
  | .cons _ value rest => value.WellKeyed ∧ rest.WellKeyed

end

namespace PyEntries

theorem keys_set (key : PyText) (item : PyValue) : (entries : PyEntries) →
    (entries.set key item).keys = if key ∈ entries.keys then entries.keys
      else entries.keys ++ [key]
  | .nil => by simp [PyEntries.set, PyEntries.keys]
  | .cons k v rest => by
      have hrest := keys_set key item rest
      by_cases hk : k = key
      · simp [PyEntries.set, PyEntries.keys, hk]
      · have hne : key ≠ k := fun h => hk h.symm
        by_cases hmem : key ∈ rest.keys <;>
          simp [PyEntries.set, PyEntries.keys, hk, hne, hrest, hmem]

theorem nodup_keys_set {entries : PyEntries} (h : entries.keys.Nodup) (key : PyText)
    (item : PyValue) : (entries.set key item).keys.Nodup := by
  rw [keys_set]
  split
  · exact h
  · next hmem =>
      have hne : ∀ k ∈ entries.keys, k ≠ key := fun k hk heq => hmem (heq ▸ hk)
      simp only [List.nodup_append, h, List.mem_singleton, forall_eq, true_and]
      exact ⟨by simp, hne⟩

theorem wellKeyed_set {key : PyText} {item : PyValue} (hitem : item.WellKeyed) :
    (entries : PyEntries) → entries.WellKeyed → (entries.set key item).WellKeyed
  | .nil, _ => ⟨hitem, trivial⟩
  | .cons k v rest, h => by
      unfold PyEntries.set
      split
      · exact ⟨hitem, h.2⟩
      · exact ⟨h.1, wellKeyed_set hitem rest h.2⟩

/-- What a key maps to is well keyed. -/
theorem WellKeyed.get? {key : PyText} {value : PyValue} :
    (entries : PyEntries) → entries.WellKeyed → entries.get? key = some value → value.WellKeyed
  | .cons k v rest, h, hget => by
      unfold PyEntries.get? at hget
      split at hget
      · exact Option.some.inj hget ▸ h.1
      · exact WellKeyed.get? rest h.2 hget

end PyEntries

theorem PyItems.wellKeyed_iff : (items : PyItems) →
    (items.WellKeyed ↔ ∀ item ∈ items.toList, item.WellKeyed)
  | .nil => by simp [PyItems.WellKeyed, PyItems.toList]
  | .cons item rest => by
      simp only [PyItems.WellKeyed, PyItems.toList, List.forall_mem_cons, wellKeyed_iff rest]

/-! ## What the decoder builds -/

/-- A scan whose value, if it reads one, is well keyed. -/
def KeyedScan (scan : PyText → Scan PyValue) : Prop :=
  ∀ t value rest, scan t = .ok (value, rest) → value.WellKeyed

section Scan

variable {scan : PyText → Scan PyValue}

theorem wellKeyed_scanItems (hscan : KeyedScan scan) (steps : Nat) (t : PyText)
    (items : PyItems) (rest : PyText) (h : scanItems scan steps t = .ok (items, rest)) :
    items.WellKeyed := by
  induction steps generalizing t items rest with
  | zero => cases h
  | succ steps ih =>
      unfold scanItems at h
      cases hs : scan t with
      | error error => rw [hs] at h; cases h
      | ok read =>
          have hitem := hscan t read.1 read.2 hs
          rw [hs] at h
          dsimp only at h
          cases hskip : skipSpace read.2 with
          | nil => rw [hskip] at h; cases h
          | cons c after =>
              rw [hskip] at h
              dsimp only at h
              split at h
              · cases h
                exact ⟨hitem, trivial⟩
              · split at h
                · cases hmore : scanItems scan steps (skipSpace after) with
                  | error error => rw [hmore] at h; cases h
                  | ok more =>
                      rw [hmore] at h
                      cases h
                      exact ⟨hitem, ih _ _ _ hmore⟩
                · cases h

theorem wellKeyed_scanMembers (hscan : KeyedScan scan) (steps : Nat) (before : PyEntries)
    (hnodup : before.keys.Nodup) (hbefore : before.WellKeyed) (t : PyText)
    (entries : PyEntries) (rest : PyText)
    (h : scanMembers scan steps before t = .ok (entries, rest)) :
    entries.keys.Nodup ∧ entries.WellKeyed := by
  induction steps generalizing before t with
  | zero => cases h
  | succ steps ih =>
      unfold scanMembers at h
      split at h
      · cases h
      · split at h
        · split at h
          · cases h
          · next key after hkey =>
              split at h
              · cases h
              · split at h
                · split at h
                  · cases h
                  · next item after hitem =>
                      -- The entries with the member just read, which every way on starts from.
                      have hvalue := hscan _ _ _ hitem
                      have hkeys := PyEntries.nodup_keys_set hnodup key item
                      have hset : (before.set key item).WellKeyed :=
                        PyEntries.wellKeyed_set hvalue before hbefore
                      split at h
                      · cases h
                      · split at h
                        · cases h
                          exact ⟨hkeys, hset⟩
                        · split at h
                          · exact ih _ hkeys hset _ h
                          · cases h
                · cases h
        · cases h

theorem keyedScan_scanScalar : KeyedScan scanScalar := by
  intro t value rest h
  unfold scanScalar at h
  split at h
  · next word hword =>
      have hmem := List.mem_of_find?_eq_some hword
      cases h
      simp only [jsonWords, List.mem_cons, List.not_mem_nil, or_false] at hmem
      obtain rfl | rfl | rfl | rfl | rfl | rfl := hmem <;> trivial
  · unfold scanNumber at h
    dsimp only at h
    split at h
    · cases h
    · split at h
      · split at h
        · cases h
        · cases h
          trivial
      · cases h
        trivial

theorem keyedScan_scanStep {inner : Option (PyText → Scan PyValue)}
    (hinner : ∀ scan ∈ inner, KeyedScan scan) : KeyedScan (scanStep inner) := by
  intro t value rest h
  unfold scanStep at h
  split at h
  · cases h
  · split at h
    · split at h
      · cases h
      · cases h
        trivial
    · split at h
      · split at h
        · cases h
        · next scan =>
            unfold scanObject at h
            split at h
            · cases h
            · split at h
              · cases h
                exact ⟨List.nodup_nil, trivial⟩
              · split at h
                · cases h
                · next entries _ hmembers =>
                    cases h
                    exact wellKeyed_scanMembers (hinner scan rfl) _ .nil List.nodup_nil
                      trivial _ _ _ hmembers
      · split at h
        · split at h
          · cases h
          · next scan =>
              unfold scanArray at h
              split at h
              · cases h
              · split at h
                · cases h
                  trivial
                · split at h
                  · cases h
                  · next items _ hitems =>
                      cases h
                      exact wellKeyed_scanItems (hinner scan rfl) _ _ _ _ hitems
        · exact keyedScan_scanScalar _ _ _ h

end Scan

theorem keyedScan_scanOnce (depth : Nat) : KeyedScan (scanOnce depth) := by
  induction depth with
  | zero => exact keyedScan_scanStep fun _ h => nomatch h
  | succ depth ih => exact keyedScan_scanStep fun _ h => Option.mem_some.mp h ▸ ih

/-- **A decoded value is well keyed.** -/
theorem wellKeyed_of_loads {limit : Nat} {t : PyText} {value : PyValue}
    (h : loads limit t = .ok value) : value.WellKeyed := by
  unfold loads at h
  split at h
  · cases h
  · split at h
    · cases h
    · next read rest hscan =>
        split at h
        · cases h
          exact keyedScan_scanOnce limit _ _ _ hscan
        · cases h

/-! ## Keys at any depth -/

mutual

/-- Some object inside the value, at any depth, has a key that `p` picks. -/
def PyValue.holdsKey (p : PyText → Bool) : PyValue → Bool
  | .dict entries => entries.holdsKey p
  | .list items => items.holdsKey p
  | _ => false

/-- The same for the items of an array. -/
def PyItems.holdsKey (p : PyText → Bool) : PyItems → Bool
  | .nil => false
  | .cons item rest => item.holdsKey p || rest.holdsKey p

/-- The same for the entries of an object, their own keys included. -/
def PyEntries.holdsKey (p : PyText → Bool) : PyEntries → Bool
  | .nil => false
  | .cons key value rest => p key || value.holdsKey p || rest.holdsKey p

end

mutual

/-- The arrays that stand directly inside another array, the outermost of each nest. -/
def PyValue.nestedArrays : PyValue → List PyItems
  | .dict entries => entries.nestedArrays
  | .list items => items.nestedArrays
  | _ => []

/-- Those among and inside the items of an array. -/
def PyItems.nestedArrays : PyItems → List PyItems
  | .nil => []
  | .cons (.list inner) rest => inner :: rest.nestedArrays
  | .cons (.dict inner) rest => inner.nestedArrays ++ rest.nestedArrays
  | .cons _ rest => rest.nestedArrays

/-- Those inside the values of an object. -/
def PyEntries.nestedArrays : PyEntries → List PyItems
  | .nil => []
  | .cons _ value rest => value.nestedArrays ++ rest.nestedArrays

end

/-! ## Objects by their members -/

namespace PyEntries

/-- The members, in insertion order. -/
def toList : PyEntries → List (PyText × PyValue)
  | .nil => []
  | .cons key value rest => (key, value) :: rest.toList

/-- Where keys are once each, the members are what lookups find. -/
theorem mem_toList {key : PyText} {value : PyValue} : (entries : PyEntries) →
    entries.keys.Nodup → ((key, value) ∈ entries.toList ↔ entries.get? key = some value)
  | .nil, _ => by simp [PyEntries.toList, PyEntries.get?]
  | .cons k v rest, hnodup => by
      obtain ⟨hk, hrest⟩ := List.nodup_cons.mp hnodup
      have ih : (key, value) ∈ rest.toList ↔ rest.get? key = some value := mem_toList rest hrest
      rw [PyEntries.toList, List.mem_cons, ih, PyEntries.get?]
      by_cases heq : k = key
      · -- The first member is the only one of its key.
        have hnone : rest.get? key = none := by
          by_contra hsome
          exact hk (heq ▸ (PyEntries.mem_keys rest).mpr hsome)
        simp [heq, hnone, eq_comm]
      · have hne : key ≠ k := fun h => heq h.symm
        simp [heq, hne]

/-- What a lookup finds is a member. -/
theorem mem_toList_of_get? {key : PyText} {value : PyValue} : (entries : PyEntries) →
    entries.get? key = some value → (key, value) ∈ entries.toList
  | .cons k v rest, h => by
      unfold PyEntries.get? at h
      split at h
      · next heq =>
          cases heq
          cases h
          exact List.mem_cons_self
      · exact List.mem_cons_of_mem _ (mem_toList_of_get? rest h)

end PyEntries

/-! ## Properties at any depth -/

mutual

/-- Every string inside the value has the property; keys are not counted. -/
def PyValue.AllTexts (p : PyText → Prop) : PyValue → Prop
  | .str text => p text
  | .dict entries => entries.AllTexts p
  | .list items => items.AllTexts p
  | _ => True

/-- The same for the items of an array. -/
def PyItems.AllTexts (p : PyText → Prop) : PyItems → Prop
  | .nil => True
  | .cons item rest => item.AllTexts p ∧ rest.AllTexts p

/-- The same for the values of an object. -/
def PyEntries.AllTexts (p : PyText → Prop) : PyEntries → Prop
  | .nil => True
  | .cons _ value rest => value.AllTexts p ∧ rest.AllTexts p

end

mutual

/-- Every member of every object inside the value has the property. -/
def PyValue.EachMember (q : PyText → PyValue → Prop) : PyValue → Prop
  | .dict entries => entries.EachMember q
  | .list items => items.EachMember q
  | _ => True

/-- The same for the items of an array. -/
def PyItems.EachMember (q : PyText → PyValue → Prop) : PyItems → Prop
  | .nil => True
  | .cons item rest => item.EachMember q ∧ rest.EachMember q

/-- The same for an object, its own members included. -/
def PyEntries.EachMember (q : PyText → PyValue → Prop) : PyEntries → Prop
  | .nil => True
  | .cons key value rest => q key value ∧ value.EachMember q ∧ rest.EachMember q

end

section Depth

variable {p : PyText → Prop} {q : PyText → PyValue → Prop}

theorem PyItems.allTexts_iff : (items : PyItems) →
    (items.AllTexts p ↔ ∀ item ∈ items.toList, item.AllTexts p)
  | .nil => by simp [PyItems.AllTexts, PyItems.toList]
  | .cons item rest => by
      simp only [PyItems.AllTexts, PyItems.toList, List.forall_mem_cons, allTexts_iff rest]

theorem PyEntries.allTexts_iff : (entries : PyEntries) →
    (entries.AllTexts p ↔ ∀ member ∈ entries.toList, member.2.AllTexts p)
  | .nil => by simp [PyEntries.AllTexts, PyEntries.toList]
  | .cons key value rest => by
      simp only [PyEntries.AllTexts, PyEntries.toList, List.forall_mem_cons, allTexts_iff rest]

theorem PyItems.eachMember_iff : (items : PyItems) →
    (items.EachMember q ↔ ∀ item ∈ items.toList, item.EachMember q)
  | .nil => by simp [PyItems.EachMember, PyItems.toList]
  | .cons item rest => by
      simp only [PyItems.EachMember, PyItems.toList, List.forall_mem_cons, eachMember_iff rest]

theorem PyEntries.eachMember_iff : (entries : PyEntries) →
    (entries.EachMember q ↔
      ∀ member ∈ entries.toList, q member.1 member.2 ∧ member.2.EachMember q)
  | .nil => by simp [PyEntries.EachMember, PyEntries.toList]
  | .cons key value rest => by
      simp only [PyEntries.EachMember, PyEntries.toList, List.forall_mem_cons,
        eachMember_iff rest, and_assoc]

end Depth

end Eag.Foundation
