import QueryBook.Proofs.Xml.Tags
import QueryBook.Xml.Document

namespace QueryBook.Xml

/-!
# Documents as trees

A document stands for a tree: an element holds elements, text, character data, comments and
instructions. A tree can be written in many ways, and it alone says which definitions a document
gives.

* `Node`, `charsOf` — the tree, and the text inside some nodes at any depth.
* `Element.entry?`, `Element.definition?` — the entry that an element is, with the last of its
  definitions, and what such an element defines.
* `Node.Written`, `NodesWritten` — the ways to write a tree.
* `Document` — an element between comments, instructions and blanks.
-/

/-- A node of a tree. -/
inductive Node where
  | element (name : List Char) (attributes : List (List Char × List Char)) (content : List Node)
  | text (chars : List Char)
  /-- Text in which nothing is an entity. -/
  | cdata (chars : List Char)
  | comment (chars : List Char)
  | instruction (chars : List Char)

mutual

/-- The text inside a node, at any depth. -/
def Node.chars : Node → List Char
  | .element _ _ content => charsOf content
  | .text chars | .cdata chars => chars
  | .comment _ | .instruction _ => []

/-- The text inside a row of nodes, at any depth. -/
def charsOf : List Node → List Char
  | [] => []
  | node :: nodes => node.chars ++ charsOf nodes

end

@[simp] theorem charsOf_append (nodes others : List Node) :
    charsOf (nodes ++ others) = charsOf nodes ++ charsOf others := by
  induction nodes with
  | nil => rfl
  | cons node nodes ih => simp [charsOf, ih]

/-! ### Elements -/

/-- The parts of an element. -/
structure Element where
  name : List Char
  attributes : List (List Char × List Char)
  content : List Node

/-- An element as a node. -/
def Element.node (e : Element) : Node := .element e.name e.attributes e.content

/-- The element that a node is, if it is one. -/
def Node.element? : Node → Option Element
  | .element name attributes content => some ⟨name, attributes, content⟩
  | _ => none

/-- The elements in a row of nodes. -/
def elementsOf (nodes : List Node) : List Element := nodes.filterMap Node.element?

/-- A name without its qualifier, which ends at the first colon. -/
def localPart (name : List Char) : List Char :=
  if ':' ∈ name then (name.dropWhile (· != ':')).tail else name

/-- The elements of a local name in a row of nodes. -/
def elementsNamed (name : List Char) (nodes : List Node) : List Element :=
  (elementsOf nodes).filter fun e => localPart e.name = name

namespace Element

variable (e : Element)

/-- The value of an attribute. -/
def attribute? (key : String) : Option String :=
  (e.attributes.lookup key.toList).map String.ofList

/-- The name of an entry, unless it is blank. -/
def entryName? : Option String := (e.attribute? "name").filter fun name => !Text.isBlank name

/-- The dialect that an element tells. -/
def dialect? : Option Dialect := (e.attribute? "type").bind Dialect.parse?

/-- The text of the last `SqlCommand` in an element, or else all text of the element. -/
def queryChars : List Char :=
  match (elementsNamed commandName e.content).getLast? with
  | some command => charsOf command.content
  | none => charsOf e.content

/-- The definition that an element gives to an entry, if its dialect is known. -/
def definition? (name : String) : Option Definition :=
  e.dialect?.map fun dialect =>
    { name, dialect
      connection := e.attribute? "ConnStringName"
      assembly := e.attribute? "Assembly"
      className := e.attribute? "ModelClassName"
      sql := Text.trim (String.ofList e.queryChars) }

/-- The entry that an element is, and the last `SqlDefinition` in it: an entry has both a name and
    a definition. -/
def entry? : Option (String × Element) := do
  let name ← e.entryName?
  let definition ← (elementsNamed definitionName e.content).getLast?
  some (name, definition)

/-- If the element has the name of an entry, each `SqlDefinition` in it tells its dialect. -/
def Supported : Prop :=
  e.entryName?.isSome → ∀ d ∈ elementsNamed definitionName e.content, d.dialect?.isSome

end Element

/-- The entries in a row of nodes, each with the element that defines it. -/
def entriesOf (nodes : List Node) : List (String × Element) :=
  (elementsOf nodes).filterMap Element.entry?

/-! ### Rows of nodes -/

/-- A node that is an element is this element. -/
theorem Node.eq_node_of_element?_eq_some {node : Node} {e : Element}
    (h : node.element? = some e) : node = e.node := by
  cases node with
  | element name attributes content =>
    cases h
    rfl
  | text chars => cases h
  | cdata chars => cases h
  | comment chars => cases h
  | instruction chars => cases h

@[simp] theorem elementsOf_append (nodes others : List Node) :
    elementsOf (nodes ++ others) = elementsOf nodes ++ elementsOf others :=
  List.filterMap_append

@[simp] theorem elementsOf_node (e : Element) : elementsOf [e.node] = [e] := rfl

/-- A node that is no element adds none. -/
theorem elementsOf_of_not_element {node : Node} (h : node.element? = none) :
    elementsOf [node] = [] :=
  List.filterMap_cons_none h

/-- The element that a node is, is one of its row. -/
theorem elementsOf_subset {node : Node} {nodes : List Node} (h : node ∈ nodes) :
    elementsOf [node] ⊆ elementsOf nodes :=
  List.filterMap_subset _ fun _ hmem => List.mem_singleton.1 hmem ▸ h

theorem elementsNamed_append (name : List Char) (nodes others : List Node) :
    elementsNamed name (nodes ++ others) =
      elementsNamed name nodes ++ elementsNamed name others := by
  simp [elementsNamed]

/-- The element of a name that a node is, is one of its row. -/
theorem elementsNamed_subset (name : List Char) {node : Node} {nodes : List Node}
    (h : node ∈ nodes) : elementsNamed name [node] ⊆ elementsNamed name nodes :=
  List.filter_subset _ (elementsOf_subset h)

theorem entriesOf_append (nodes others : List Node) :
    entriesOf (nodes ++ others) = entriesOf nodes ++ entriesOf others := by
  simp [entriesOf]

/-- An element adds the entry that it is, if it is one. -/
theorem entriesOf_node (e : Element) : entriesOf [e.node] = e.entry?.toList := by
  cases hentry : e.entry? <;> simp [entriesOf, hentry]

/-- A node is an element of that name, or there is none in it. -/
theorem elementsNamed_singleton (name : List Char) (node : Node) :
    (∃ e, node = e.node ∧ localPart e.name = name ∧ elementsNamed name [node] = [e]) ∨
      (∀ e, node.element? = some e → localPart e.name ≠ name) ∧ elementsNamed name [node] = [] := by
  cases hnode : node.element? with
  | none => exact .inr ⟨by simp, by simp [elementsNamed, elementsOf_of_not_element hnode]⟩
  | some e =>
    obtain rfl := Node.eq_node_of_element?_eq_some hnode
    by_cases hname : localPart e.name = name
    · exact .inl ⟨e, rfl, hname, by simp [elementsNamed, hname]⟩
    · exact .inr ⟨by simpa using hname, by simp [elementsNamed, hname]⟩

/-- An element that tells its dialect gives a definition. -/
theorem Element.exists_definition? {e : Element} (name : String) (h : e.dialect?.isSome) :
    ∃ d, e.definition? name = some d := by
  obtain ⟨dialect, hdialect⟩ := Option.isSome_iff_exists.1 h
  exact ⟨_, by rw [Element.definition?, hdialect, Option.map_some]⟩

/-- The query text of a definition is what its element says, without the blanks around it. -/
theorem Element.sql_eq {e : Element} {name : String} {d : Definition}
    (h : e.definition? name = some d) : d.sql = String.ofList (Text.trimChars e.queryChars) := by
  obtain ⟨dialect, -, rfl⟩ := Option.map_eq_some_iff.1 h
  simp [Text.trim]

/-! ### Ways to write a tree -/

mutual

/-- The ways to write a node. -/
inductive Node.Written : Node → List Char → Prop
  | element {name tag inner blanks : List Char} {attributes : List (List Char × List Char)}
      {content : List Node} :
      IsName name → WrittenAttributes attributes tag → NodesWritten content inner →
      Blanks blanks →
      Node.Written (.element name attributes content)
        ('<' :: (name ++ (tag ++ '>' :: (inner ++ '<' :: '/' :: (name ++ (blanks ++ ['>']))))))
  | text {chars raw : List Char} : Spells '<' chars raw → Node.Written (.text chars) raw
  | cdata {chars : List Char} :
      ¬ [']', ']', '>'] <:+: chars →
      Node.Written (.cdata chars) ("<![CDATA[".toList ++ (chars ++ [']', ']', '>']))
  | comment {chars : List Char} :
      ¬ ['-', '-', '>'] <:+: chars →
      Node.Written (.comment chars) ("<!--".toList ++ (chars ++ ['-', '-', '>']))
  | instruction {chars : List Char} :
      -- The question mark that opens an instruction is not the one that closes it.
      ¬ ['?', '>'] <:+: '?' :: chars →
      Node.Written (.instruction chars) ('<' :: '?' :: (chars ++ ['?', '>']))

/-- The ways to write a row of nodes. -/
inductive NodesWritten : List Node → List Char → Prop
  | nil : NodesWritten [] []
  | cons {node : Node} {nodes : List Node} {raw more : List Char} :
      node.Written raw → NodesWritten nodes more → NodesWritten (node :: nodes) (raw ++ more)

end

/-! ### Documents -/

/-- What may stand beside the root of a document. -/
def Node.Outside : Node → Prop
  | .text chars => Blanks chars
  | .comment _ | .instruction _ => True
  | .element _ _ _ | .cdata _ => False

/-- A tree with one root. -/
structure Document where
  before : List Node
  root : Element
  after : List Node
  outside : ∀ node ∈ before ++ after, node.Outside

namespace Document

/-- The nodes of a document in their order. -/
def nodes (d : Document) : List Node := d.before ++ d.root.node :: d.after

/-- Every definition of a named entry tells a dialect. -/
def Supported (d : Document) : Prop := ∀ e ∈ elementsOf d.root.content, e.Supported

/-- The ways to write a document. A byte-order mark may come first. -/
def Written (d : Document) (text : String) : Prop :=
  ∃ raw, NodesWritten d.nodes raw ∧ (text.toList = raw ∨ text.toList = '\ufeff' :: raw)

end Document

instance (e : Element) : Decidable e.Supported :=
  inferInstanceAs (Decidable (_ → ∀ d ∈ elementsNamed definitionName e.content, _))

instance (d : Document) : Decidable d.Supported :=
  inferInstanceAs (Decidable (∀ e ∈ elementsOf d.root.content, _))

/-- A document that is written begins with no byte-order mark. -/
theorem head?_ne_of_outside {nodes others : List Node} {root : Element} {raw : List Char}
    (hnodes : ∀ node ∈ nodes, node.Outside) (h : NodesWritten (nodes ++ root.node :: others) raw) :
    raw.head? ≠ some '\ufeff' := by
  induction nodes generalizing raw with
  | nil =>
    cases h with
    | cons hroot _ =>
      cases hroot with
      | element _ _ _ _ => simp
  | cons node nodes ih =>
    cases h with
    | @cons _ _ first more hnode hmore =>
      obtain ⟨houtside, hnodes⟩ := List.forall_mem_cons.1 hnodes
      have ih := ih hnodes hmore
      cases hnode with
      | element _ _ _ _ => exact houtside.elim
      | cdata _ => exact houtside.elim
      | comment _ => simp
      | instruction _ => simp
      | text hspells =>
        -- A text in front of the root is blank; an empty one leaves it to the next node.
        cases hspells with
        | nil => exact ih
        | @plain c _ _ _ _ _ =>
          have hspace : isSpace c = true := houtside c List.mem_cons_self
          simpa using ne_of_isSpace hspace (by decide)
        | entity _ _ => simp

namespace Document

/-- The root is the only element among the nodes of a document. -/
theorem elementsOf_nodes (d : Document) : elementsOf d.nodes = [d.root] := by
  have hnone : ∀ {nodes : List Node}, (∀ node ∈ nodes, node.Outside) → elementsOf nodes = [] := by
    intro nodes hnodes
    refine List.filterMap_eq_nil_iff.2 fun node hmem => ?_
    have houtside := hnodes node hmem
    cases node with
    | element _ _ _ => exact houtside.elim
    | text _ => rfl
    | cdata _ => rfl
    | comment _ => rfl
    | instruction _ => rfl
  have hbefore := hnone fun node hmem => d.outside node (List.mem_append_left d.after hmem)
  have hafter := hnone fun node hmem => d.outside node (List.mem_append_right d.before hmem)
  rw [nodes, ← List.singleton_append, elementsOf_append, elementsOf_append, hbefore, hafter,
    elementsOf_node]
  rfl

/-- The mark that may come first is no part of what is written. -/
theorem withoutMark_eq {d : Document} {text : String} (h : d.Written text) :
    ∃ raw, NodesWritten d.nodes raw ∧ withoutMark text.toList = raw := by
  obtain ⟨raw, hraw, htext | htext⟩ := h
  · have hhead := head?_ne_of_outside (fun node hnode => d.outside node (by simp [hnode])) hraw
    refine ⟨raw, hraw, ?_⟩
    rw [htext, withoutMark]
    rintro rest rfl
    exact hhead rfl
  · exact ⟨raw, hraw, by rw [htext]; rfl⟩

end Document

end QueryBook.Xml
