import InputPanel.Properties
import InputPanel.Proofs.OrderedMap
import InputPanel.Proofs.Text.Lines

/-!
# Property texts one after the other

A line is read by itself: no comment, no backslash at its end and no kind of
break reaches beyond it. So two property texts with a line feed between them
hold the entries of both, and read as the map of the first with that of the
second merged in.
-/

namespace InputPanel.Properties

/-- The entries of a text are the same after any other text. -/
theorem parseEntries_append (text later : List Char) :
    parseEntries (text ++ '\n' :: later) = parseEntries text ++ parseEntries later := by
  obtain ⟨gap, empty, lines⟩ := Text.exists_lines_append text later
  have nothing : gap.filterMap parseLine? = [] := by
    rcases empty with rfl | rfl
    · rfl
    · rfl
  rw [parseEntries, lines, List.filterMap_append, List.filterMap_append, nothing, List.append_nil]
  rfl

section Joined

variable (text later : String)

theorem toList_joined :
    (text ++ "\n" ++ later).toList = text.toList ++ '\n' :: later.toList := by
  rw [String.toList_append, String.toList_append, List.append_assoc]
  rfl

theorem parse_joined : parse (text ++ "\n" ++ later) = (parse text).merge (parse later) := by
  rw [parse, toList_joined, parseEntries_append, parse, parse, OrderedMap.merge_ofList,
    OrderedMap.ofList, OrderedMap.setAll, List.foldl_append]
  rfl

/-- Two texts with a line feed between them hold the entries of the first and then those of the
second, whatever the first ends in. They read as the first map with the second merged in: for a name
in both the value of the second stays, the names of the first come first, and both keep their
order. -/
theorem joined_texts_merge :
    parseEntries (text ++ "\n" ++ later).toList =
        parseEntries text.toList ++ parseEntries later.toList ∧
      parse (text ++ "\n" ++ later) = (parse text).merge (parse later) ∧
      (∀ name, (parse (text ++ "\n" ++ later)).get? name =
        ((parse later).get? name).or ((parse text).get? name)) ∧
      (parse (text ++ "\n" ++ later)).keys =
        (parse text).keys ++ (parse later).keys.filter fun name => !(parse text).contains name := by
  have merged := parse_joined text later
  refine ⟨?_, merged, fun name => ?_, ?_⟩
  · rw [toList_joined, parseEntries_append]
  · rw [merged, OrderedMap.get?_merge]
  · rw [merged, OrderedMap.keys_merge]

end Joined

end InputPanel.Properties
