/-!
# Parts of a text

A text is cut at every occurrence of a separator. There is always one part more than there are
separators.
-/

namespace ColumnStore

namespace Text

def fields (separator : Char) : List Char → List (List Char)
  | [] => [[]]
  | c :: cs =>
    if c = separator then [] :: fields separator cs
    else match fields separator cs with
      | [] => [[c]]
      | f :: fs => (c :: f) :: fs

@[simp] theorem fields_nil (separator : Char) : fields separator [] = [[]] := rfl

theorem fields_ne_nil (separator : Char) (cs : List Char) : fields separator cs ≠ [] := by
  induction cs with
  | nil => simp
  | cons c cs ih =>
      unfold fields
      split
      · simp
      · split <;> simp

def split (separator : Char) (s : String) : List String :=
  (fields separator s.toList).map String.ofList

end Text

end ColumnStore
