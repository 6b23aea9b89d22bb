/-
  Eag.Foundation.JsonEncoder

  The compact text of a JSON value whose strings are Python texts.

  `Foundation.Json` encodes texts of characters. Evidence that a caller supplies may hold
  lone surrogates: the encoder escapes them like any other code unit, so the text of a
  value is ASCII and there is a digest for every value. Keys are literals of the source.
-/

import Eag.Foundation.JsonDecoder
import Eag.Foundation.Sha256

namespace Eag.Foundation

/-! ## Values -/

mutual

/-- A value without floats, as the payloads of evidence build it. -/
inductive Payload where
  | null
  | bool (b : Bool)
  | int (n : Int)
  | str (s : PyText)
  | list (items : PayloadItems)
  | dict (entries : PayloadEntries)

/-- The items of a list. -/
inductive PayloadItems where
  | nil
  | cons (item : Payload) (rest : PayloadItems)

/-- The entries of a dict. -/
inductive PayloadEntries where
  | nil
  | cons (key : String) (item : Payload) (rest : PayloadEntries)

end

namespace Payload

/-- A list of the given values. -/
def ofItems : List Payload → PayloadItems
  | [] => .nil
  | item :: rest => .cons item (ofItems rest)

/-- A dict with the given entries. -/
def ofEntries : List (String × Payload) → PayloadEntries
  | [] => .nil
  | (key, item) :: rest => .cons key item (ofEntries rest)

/-- A list value. -/
def array (items : List Payload) : Payload := .list (ofItems items)

/-- A dict value. -/
def object (entries : List (String × Payload)) : Payload := .dict (ofEntries entries)

/-- A text value given by a literal or a digest. -/
def text (s : String) : Payload := .str (.ofString s)

/-- A text or `None`. -/
def optional : Option PyText → Payload
  | none => .null
  | some s => .str s

/-! ## Text -/

/-- How one element of a text stands inside a JSON string. -/
def escapePoint : CodePoint → List Char
  | .scalar c => escapeChar c
  | .surrogate offset => '\\' :: 'u' :: hex4 (0xd800 + offset.val)

/-- The rest of a JSON string after its opening quote. -/
def quoteTail : PyText → List Char
  | [] => ['"']
  | c :: rest => escapePoint c ++ quoteTail rest

/-- A JSON string. -/
def quote (s : PyText) : List Char := '"' :: quoteTail s

mutual

/-- The text of a value. -/
def render : Payload → List Char
  | .null => ['n', 'u', 'l', 'l']
  | .bool true => ['t', 'r', 'u', 'e']
  | .bool false => ['f', 'a', 'l', 's', 'e']
  | .int n => integerText n
  | .str s => quote s
  | .list .nil => ['[', ']']
  | .list (.cons item rest) => '[' :: (render item ++ renderTail rest)
  | .dict entries => objectText ((members entries).mergeSort keyLe)

/-- The items of a list after the first. -/
def renderTail : PayloadItems → List Char
  | .nil => [']']
  | .cons item rest => ',' :: (render item ++ renderTail rest)

/-- The rendered members of a dict, in the order they were given. -/
def members : PayloadEntries → List (String × List Char)
  | .nil => []
  | .cons key item rest => (key, render item) :: members rest

end

/-- `json.dumps(value, separators=(",", ":"), sort_keys=True)`. -/
def dumps (value : Payload) : String := String.ofList value.render

/-- `hashlib.sha256(json.dumps(value, …).encode()).hexdigest()`. -/
def digest (value : Payload) : String := sha256Hex value.dumps

theorem quote_ofString (s : String) : quote (.ofString s) = Foundation.quote s := by
  have htail : ∀ cs : List Char, quoteTail (cs.map .scalar) = Foundation.quoteTail cs := by
    intro cs
    induction cs with
    | nil => rfl
    | cons c cs ih => rw [List.map_cons, quoteTail, ih, escapePoint, Foundation.quoteTail]
  rw [quote, PyText.ofString, htail, Foundation.quote]

theorem isDigest_digest (value : Payload) : IsDigest value.digest := isDigest_sha256Hex _

end Payload

end Eag.Foundation
