import SentenceReader.Token.Options

/-! Written options of tokenizers that are merged. The merged list holds the items of the first one
and then those of the second one. -/
namespace SentenceReader

namespace OptionTable

@[simp] theorem items_nil : items [] = [] := by decide

theorem items_append (a b : Text) : items (a ++ ',' :: b) = items a ++ items b := by
  simp [items, Text.fields, List.splitOn_append_cons_self]

theorem items_merge (a b : Text) : items (merge [a, b]) = items a ++ items b := by
  cases a with
  | nil => cases b <;> simp [merge, Text.join, List.intercalate]
  | cons c a =>
    cases b with
    | nil => simp [merge, Text.join, List.intercalate]
    | cons d b =>
      have h : merge [c :: a, d :: b] = (c :: a) ++ ',' :: (d :: b) := by
        simp [merge, Text.join, List.intercalate]
      rw [h, items_append]

theorem addItems_append (known : List Text) (table : OptionTable) (xs ys : List Text) :
    addItems known table (xs ++ ys) = (addItems known table xs).bind (addItems known · ys) := by
  induction xs generalizing table with
  | nil => rfl
  | cons x xs ih =>
    simp only [List.cons_append, addItems]
    split
    · exact ih _
    · rfl

/-- The second list is read into the table of the first one. -/
theorem read_merge (known : List Text) (a b : Text) :
    read known (merge [a, b]) = (read known a).bind (addItems known · (items b)) := by
  rw [read, items_merge, addItems_append]
  rfl

/-- Newlines that are asked for behind a list of options are an option of their own. -/
theorem read_merge_newlines {known : List Text} (hk : "tokenizeNLs".toList ∈ known) (a : Text) :
    read known (merge [a, "tokenizeNLs".toList]) =
      (read known a).map (set "tokenizeNLs".toList defaultValue) := by
  have hi : items "tokenizeNLs".toList = ["tokenizeNLs".toList] := by decide
  have he : entry "tokenizeNLs".toList = ("tokenizeNLs".toList, defaultValue) := by decide
  rw [read_merge, hi]
  cases read known a with
  | error key => rfl
  | ok table => simp only [Except.bind, addItems, he, hk, if_true, Except.map]

end OptionTable

end SentenceReader
