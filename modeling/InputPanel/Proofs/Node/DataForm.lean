import InputPanel.Node
import InputPanel.Proofs.OrderedMap
import Mathlib.Data.List.Forall2

/-!
# Nodes and the data they are written as

A node without a text can be written as a mapping that holds its attributes as texts
and, under each name, its children of that name. This forgets how children of
different names stand to one another, and a mapping may hold its entries in any order.
Nodes are alike if they have the same attributes and text, and children of each name
that are alike one by one. What is read back from a mapping is alike what was written.
-/

namespace InputPanel.Node

/-- Nodes that no look-up of attributes, text or children by name tells apart. -/
inductive Alike : Node → Node → Prop
  | intro {a b : Node} (attributes : ∀ key, a.get? key = b.get? key) (text : a.text = b.text)
      (children : ∀ name, List.Forall₂ Alike (a.childrenNamed name) (b.childrenNamed name)) :
      Alike a b

namespace Alike

variable {a b : Node} {α : Type}

theorem get? (alike : Alike a b) (key : String) : a.get? key = b.get? key := by
  cases alike with
  | intro attributes => exact attributes key

theorem getD (alike : Alike a b) (key default : String) :
    a.getD key default = b.getD key default := by rw [Node.getD, Node.getD, alike.get?]

theorem text (alike : Alike a b) : a.text = b.text := by
  cases alike with
  | intro _ same => exact same

theorem childrenNamed (alike : Alike a b) (name : String) :
    List.Forall₂ Alike (a.childrenNamed name) (b.childrenNamed name) := by
  cases alike with
  | intro _ _ children => exact children name

/-- The first children of a name are alike, or neither node has one. -/
theorem firstChild? (alike : Alike a b) (name : String) :
    (a.firstChild? name = none ∧ b.firstChild? name = none) ∨
      ∃ s t, a.firstChild? name = some s ∧ b.firstChild? name = some t ∧ Alike s t := by
  have first (node : Node) : node.firstChild? name = (node.childrenNamed name).head? :=
    List.head?_filter.symm
  have children := alike.childrenNamed name
  rw [first a, first b]
  generalize a.childrenNamed name = nodes at children ⊢
  generalize b.childrenNamed name = others at children ⊢
  cases children with
  | nil => exact Or.inl ⟨rfl, rfl⟩
  | cons same _ => exact Or.inr ⟨_, _, rfl, rfl, same⟩

theorem bind_firstChild? (alike : Alike a b) (name : String) {f : Node → Option α}
    (same : ∀ {s t : Node}, Alike s t → f s = f t) :
    (a.firstChild? name).bind f = (b.firstChild? name).bind f := by
  obtain ⟨left, right⟩ | ⟨s, t, left, right, inner⟩ := alike.firstChild? name
  · rw [left, right]
  · rw [left, right]
    exact same inner

theorem map_firstChild? (alike : Alike a b) (name : String) {f : Node → α}
    (same : ∀ {s t : Node}, Alike s t → f s = f t) :
    (a.firstChild? name).map f = (b.firstChild? name).map f := by
  obtain ⟨left, right⟩ | ⟨s, t, left, right, inner⟩ := alike.firstChild? name
  · rw [left, right]
  · rw [left, right]
    exact congrArg some (same inner)

theorem map_childrenNamed (alike : Alike a b) (name : String) {f : Node → α}
    (same : ∀ {s t : Node}, Alike s t → f s = f t) :
    (a.childrenNamed name).map f = (b.childrenNamed name).map f := by
  have children := alike.childrenNamed name
  generalize a.childrenNamed name = nodes at children ⊢
  generalize b.childrenNamed name = others at children ⊢
  induction children with
  | nil => rfl
  | cons first _ ih => rw [List.map_cons, List.map_cons, same first, ih]

theorem filterMap_childrenNamed (alike : Alike a b) (name : String) {f : Node → Option α}
    (same : ∀ {s t : Node}, Alike s t → f s = f t) :
    (a.childrenNamed name).filterMap f = (b.childrenNamed name).filterMap f := by
  have mapped := alike.map_childrenNamed name same
  have both (nodes : List Node) : nodes.filterMap f = (nodes.map f).filterMap id := by
    rw [List.filterMap_map]
    rfl
  rw [both, both, mapped]

end Alike

section Reading

variable {entries : List (Data × Data)}

/-- The attribute that an entry of a mapping is, if it is one. -/
def attributeOf? : Data × Data → Option (String × String)
  | (.text name, .text value) => some (name, value)
  | _ => none

/-- The children that a value holds: a list of them, or a single mapping. -/
def itemsOf : Data → List Data
  | .list items => items
  | .map entries => [.map entries]
  | _ => []

/-- The children that a mapping holds under a name. -/
def itemsUnder (name : String) (entries : List (Data × Data)) : List Data :=
  entries.flatMap fun entry => if entry.1.plainText = name then itemsOf entry.2 else []

/-- An entry that stands for an attribute or for the children of one name. -/
inductive IsMember : Data × Data → Prop
  | scalar (name value : String) : IsMember (.text name, .text value)
  | children (name : String) (items : List Data) : IsMember (.text name, .list items)
  | child (name : String) (entries : List (Data × Data)) : IsMember (.text name, .map entries)

theorem ofItems_eq_map (name : String) (items : List Data) :
    ofItems name items = items.map (ofData name) := by
  induction items with
  | nil => rw [ofItems, List.map_nil]
  | cons item rest ih => rw [ofItems, ih, List.map_cons]

theorem name_ofData (name : String) (data : Data) : (ofData name data).name = name := by
  cases data <;> rfl

theorem filter_map_ofData (key name : String) (items : List Data) :
    (items.map (ofData key)).filter (fun child => child.name == name) =
      (if key = name then items else []).map (ofData name) := by
  by_cases same : key = name
  · subst same
    rw [if_pos rfl]
    exact List.filter_eq_self.2 (by simp [name_ofData])
  · rw [if_neg same]
    exact List.filter_eq_nil_iff.2 (by simp [name_ofData, same])

/-- What one entry adds before those after it. -/
theorem ofEntries_cons {entry : Data × Data} (member : IsMember entry)
    (attributes : OrderedMap String) :
    ofEntries (entry :: entries) attributes =
      let read := ofEntries entries (attributes.setAll (attributeOf? entry).toList)
      (read.1, (itemsOf entry.2).map (ofData entry.1.plainText) ++ read.2) := by
  cases member with
  | scalar name value => rfl
  | children name items =>
    dsimp only [ofEntries]
    rw [ofItems_eq_map]
    rfl
  | child name inner => rfl

theorem ofEntries_attributes (members : ∀ entry ∈ entries, IsMember entry)
    (attributes : OrderedMap String) :
    (ofEntries entries attributes).1 = attributes.setAll (entries.filterMap attributeOf?) := by
  induction entries generalizing attributes with
  | nil => rfl
  | cons entry rest ih =>
    rw [List.forall_mem_cons] at members
    rw [ofEntries_cons members.1]
    dsimp only
    rw [ih members.2]
    cases read : attributeOf? entry with
    | none => rw [List.filterMap_cons_none read, Option.toList_none, OrderedMap.setAll_nil]
    | some found =>
      rw [List.filterMap_cons_some read]
      rfl

theorem ofEntries_children (members : ∀ entry ∈ entries, IsMember entry)
    (attributes : OrderedMap String) (name : String) :
    (ofEntries entries attributes).2.filter (fun child => child.name == name) =
      (itemsUnder name entries).map (ofData name) := by
  induction entries generalizing attributes with
  | nil => rfl
  | cons entry rest ih =>
    rw [List.forall_mem_cons] at members
    rw [ofEntries_cons members.1]
    dsimp only
    rw [List.filter_append, ih members.2, filter_map_ofData, ← List.map_append]
    rfl

end Reading

section Writing

/-- That a mapping is what a node is written as: besides the attributes, each once, it holds under
each name the children of that name in their order, written in the same way. -/
inductive FormedBy : Node → Data → Prop
  | mapping {node : Node} {entries : List (Data × Data)} (textless : node.text = none)
      (members : ∀ entry ∈ entries, IsMember entry)
      (attributes : (entries.filterMap attributeOf?).Perm node.attributes.toList)
      (children : ∀ name,
        List.Forall₂ FormedBy (node.childrenNamed name) (itemsUnder name entries)) :
      FormedBy node (.map entries)

/-- What is read from the data of a node, under any name, is alike the node. -/
theorem alike_ofData {node : Node} {data : Data} (formed : FormedBy node data) (name : String) :
    Alike node (ofData name data) := by
  refine @FormedBy.rec (fun node data _ => ∀ name, Alike node (ofData name data))
    (fun nodes items _ => ∀ name, List.Forall₂ Alike nodes (items.map (ofData name)))
    ?mapping ?none ?next node data formed name
  case mapping =>
    intro node entries textless members attributes _ ih name
    have read : (ofData name (.map entries)).attributes =
        OrderedMap.ofList (entries.filterMap attributeOf?) := ofEntries_attributes members _
    refine .intro ?_ textless ?_
    · intro key
      rw [get?, get?, read, OrderedMap.get?_ofList_of_perm attributes]
    · intro key
      -- Children that stand under a key are read under that name, whatever the node is called.
      have grouped : (ofData name (.map entries)).childrenNamed key =
          (itemsUnder key entries).map (ofData key) := ofEntries_children members _ key
      rw [grouped]
      exact ih key key
  case none => exact fun _ => .nil
  case next => exact fun _ _ first rest name => .cons (first name) (rest name)

/-- Data under their names, each name once. -/
def grouped (forms : List (String × Data)) : List (String × Data) :=
  (forms.map Prod.fst).eraseDups.map fun name =>
    (name, .list ((forms.filter fun form => form.1 == name).map Prod.snd))

/-- Attributes as members of a mapping. -/
def texts (attributes : OrderedMap String) : List (String × Data) :=
  attributes.toList.map fun entry => (entry.1, .text entry.2)

/-- The entries of a mapping with texts as keys. -/
def keyed (members : List (String × Data)) : List (Data × Data) :=
  members.map fun member => (.text member.1, member.2)

mutual

/-- The mapping of the attributes and of the children under their names. -/
def toData : Node → Data
  | ⟨_, attributes, children, _⟩ =>
    .map (keyed (OrderedMap.ofList (texts attributes ++ grouped (formsOf children))).toList)

/-- The names of nodes with their data. -/
def formsOf : List Node → List (String × Data)
  | [] => []
  | child :: rest => (child.name, toData child) :: formsOf rest

end

theorem formsOf_eq_map (nodes : List Node) :
    formsOf nodes = nodes.map fun child => (child.name, child.toData) := by
  induction nodes with
  | nil => rw [formsOf, List.map_nil]
  | cons child rest ih => rw [formsOf, ih, List.map_cons]

theorem nodup_eraseDups (names : List String) : names.eraseDups.Nodup := by
  match names with
  | [] => simp
  | name :: rest =>
    have shorter : (rest.filter fun other => !other == name).length < rest.length + 1 :=
      Nat.lt_succ_of_le (List.length_filter_le _ _)
    have later := nodup_eraseDups (rest.filter fun other => !other == name)
    rw [List.eraseDups_cons, List.nodup_cons, List.mem_eraseDups]
    exact ⟨by simp, later⟩
termination_by names.length

/-- Of distinct names only the one that is looked for contributes. -/
theorem flatMap_of_nodup {α : Type} {names : List String} (distinct : names.Nodup) (name : String)
    (f : String → List α) :
    (names.flatMap fun key => if key = name then f key else []) =
      if name ∈ names then f name else [] := by
  induction names with
  | nil => simp
  | cons key rest ih =>
    rw [List.nodup_cons] at distinct
    rw [List.flatMap_cons, ih distinct.2]
    by_cases same : key = name
    · subst same
      simp [distinct.1]
    · have other : ¬ name = key := fun e => same e.symm
      simp [same, other]

theorem map_fst_grouped (forms : List (String × Data)) :
    (grouped forms).map Prod.fst = (forms.map Prod.fst).eraseDups := by
  simp [grouped, Function.comp_def]

theorem keyed_append (members more : List (String × Data)) :
    keyed (members ++ more) = keyed members ++ keyed more := List.map_append

theorem filterMap_keyed_texts (attributes : OrderedMap String) :
    (keyed (texts attributes)).filterMap attributeOf? = attributes.toList := by
  rw [keyed, texts, List.map_map, List.filterMap_map]
  exact List.filterMap_some

theorem filterMap_keyed_grouped (forms : List (String × Data)) :
    (keyed (grouped forms)).filterMap attributeOf? = [] := by
  simp [keyed, grouped, attributeOf?]

theorem itemsUnder_append (name : String) (entries more : List (Data × Data)) :
    itemsUnder name (entries ++ more) = itemsUnder name entries ++ itemsUnder name more :=
  List.flatMap_append

theorem itemsUnder_keyed_texts (name : String) (attributes : OrderedMap String) :
    itemsUnder name (keyed (texts attributes)) = [] := by
  rw [itemsUnder, List.flatMap_eq_nil_iff]
  intro entry present
  obtain ⟨member, listed, rfl⟩ := List.mem_map.1 present
  obtain ⟨scalar, _, rfl⟩ := List.mem_map.1 listed
  exact ite_self []

theorem itemsUnder_keyed_grouped (name : String) (forms : List (String × Data)) :
    itemsUnder name (keyed (grouped forms)) =
      (forms.filter fun form => form.1 == name).map Prod.snd := by
  have gathered := flatMap_of_nodup (nodup_eraseDups (forms.map Prod.fst)) name fun key =>
    (forms.filter fun form => form.1 == key).map Prod.snd
  rw [itemsUnder, keyed, grouped, List.flatMap_map, List.flatMap_map]
  refine gathered.trans ?_
  split
  · rfl
  · next absent =>
    rw [List.mem_eraseDups] at absent
    have none : (forms.filter fun form => form.1 == name) = [] := by
      rw [List.filter_eq_nil_iff]
      intro form present same
      exact absent (List.mem_map.2 ⟨form, present, beq_iff_eq.1 same⟩)
    rw [none, List.map_nil]

/-- Trees without texts in which no attribute is named like a child beside it. -/
inductive Representable : Node → Prop
  | intro {node : Node} (textless : node.text = none)
      (apart : ∀ child ∈ node.children, node.get? child.name = none)
      (children : ∀ child ∈ node.children, Representable child) : Representable node

theorem representable_of_leaf {node : Node} (textless : node.text = none)
    (leaf : node.children = []) : Representable node := by
  refine .intro textless ?_ ?_
  · simp [leaf]
  · simp [leaf]

/-- If no attribute is named like a child, no two members of the mapping have one name. -/
theorem toData_eq {node : Node} (apart : ∀ child ∈ node.children, node.get? child.name = none) :
    node.toData = .map (keyed (texts node.attributes ++
      grouped (node.children.map fun child => (child.name, child.toData)))) := by
  obtain ⟨name, attributes, children, text⟩ := node
  have distinct : ((texts attributes ++ grouped (formsOf children)).map Prod.fst).Nodup := by
    have keys : (texts attributes).map Prod.fst = attributes.keys := List.map_map
    rw [List.map_append, map_fst_grouped, keys]
    refine List.nodup_append.2 ⟨attributes.distinct, nodup_eraseDups _, ?_⟩
    intro key scalar other below same
    subst same
    rw [List.mem_eraseDups, formsOf_eq_map, List.map_map] at below
    obtain ⟨child, present, rfl⟩ := List.mem_map.1 below
    exact OrderedMap.get?_eq_none_iff.1 (apart child present) scalar
  rw [toData, OrderedMap.toList_ofList distinct, formsOf_eq_map]

/-- The mapping that is made of a node is what the node is written as. -/
theorem formedBy_toData {node : Node} (fit : Representable node) : FormedBy node node.toData := by
  induction fit with
  | @intro node textless apart _ ih =>
    rw [toData_eq apart]
    refine .mapping textless ?members ?scalars ?children
    case members =>
      intro entry present
      obtain ⟨member, listed, rfl⟩ := List.mem_map.1 present
      rcases List.mem_append.1 listed with plain | below
      · obtain ⟨scalar, _, rfl⟩ := List.mem_map.1 plain
        exact .scalar scalar.1 scalar.2
      · obtain ⟨name, _, rfl⟩ := List.mem_map.1 below
        exact .children name _
    case scalars =>
      rw [keyed_append, List.filterMap_append, filterMap_keyed_texts, filterMap_keyed_grouped,
        List.append_nil]
    case children =>
      intro name
      have items : ((node.children.map fun child => (child.name, child.toData)).filter
          fun form => form.1 == name).map Prod.snd = (node.childrenNamed name).map toData := by
        rw [List.filter_map, List.map_map]
        rfl
      rw [keyed_append, itemsUnder_append, itemsUnder_keyed_texts, itemsUnder_keyed_grouped,
        List.nil_append, items, List.forall₂_map_right_iff, List.forall₂_same]
      intro child present
      exact ih child (List.mem_of_mem_filter present)

end Writing

end InputPanel.Node
