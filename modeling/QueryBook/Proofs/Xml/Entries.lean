import QueryBook.Proofs.Xml.Ignored

namespace QueryBook.Xml

/-!
# The definitions of a document

At each of the four depths at which elements count, what a collector has gathered is told by the
nodes that have been passed over at that depth. Each node leads from what is gathered before it to
what is gathered with it, and so does a row of them.

* `Collector.InDefinition`, `Collector.InEntry`, `Collector.InRoot`, `Collector.InDocument` — what
  is gathered at each depth.
* `Document.exists_parseDocument` — a document that is written gives the definitions of its tree.
-/

/-! ### Inside a definition -/

namespace Collector

/-- What is gathered of a definition when some nodes of it have been passed over. -/
structure InDefinition (outer : Collector) (before : List Node) (s : Collector) : Prop where
  depth : s.depth = 3
  entry : s.entry = outer.entry
  found : s.found = outer.found
  target : s.target = some .definition
  /-- The last command counts. -/
  command : s.commandText =
    (elementsNamed commandName before).getLast?.map fun c => charsOf c.content
  /-- While there is no command, all text counts. -/
  own : s.commandText = none → s.definitionText = charsOf before

namespace InDefinition

variable {outer s : Collector} {before : List Node}

/-- A node that is no command adds to the text of the definition. -/
theorem takeText (h : InDefinition outer before s) {node : Node}
    (hnode : elementsNamed commandName [node] = []) :
    InDefinition outer (before ++ [node]) (s.takeText node.chars) := by
  have htext : s.takeText node.chars = s.append .definition node.chars := by
    rw [Collector.takeText, h.target]
  rw [htext]
  refine ⟨h.depth, h.entry, h.found, h.target, ?_, ?_⟩
  · rw [elementsNamed_append, hnode, List.append_nil]
    exact h.command
  · intro hnone
    rw [charsOf_append, charsOf, charsOf, List.append_nil, ← h.own hnone]
    rfl

/-- A command takes the place of the one before it. -/
theorem takeCommand (h : InDefinition outer before s) {node : Node} {command : Element}
    (hnode : elementsNamed commandName [node] = [command]) :
    InDefinition outer (before ++ [node])
      { s with commandText := some (charsOf command.content) } := by
  refine ⟨h.depth, h.entry, h.found, h.target, ?_, ?_⟩
  · rw [elementsNamed_append, hnode, List.getLast?_concat]
    rfl
  · intro hnone
    exact absurd hnone (Option.some_ne_none _)

/-- Each node of a definition takes what is gathered before it to what is gathered with it. -/
theorem exists_passes (h : InDefinition outer before s) {node : Node} {raw : List Char}
    (hnode : node.Written raw) (opened : List (List Char)) :
    ∃ s', Passes opened s raw s' ∧ InDefinition outer (before ++ [node]) s' := by
  rcases elementsNamed_singleton commandName node with ⟨e, rfl, hname, hlast⟩ | ⟨hother, hnone⟩
  · let inside : Collector :=
      { s with depth := 4, commandText := some [], target := some .command }
    have hinside : ∀ name, inside.Ignores name := by
      intro name
      constructor <;> simp [inside]
    have hopen : ∀ tag : Tag, tag.Shows e → s.takeOpening tag = .ok inside := by
      intro tag htag
      simp [takeOpening, h.depth, h.target, htag.localName_eq, hname, inside]
    have hclose : (inside.takeText (charsOf e.content)).takeClosing e.name =
        { s with commandText := some (charsOf e.content) } := by
      simp [takeClosing, Collector.takeText, append, inside, h.depth, h.target]
    refine ⟨_, ?_, h.takeCommand hlast⟩
    -- No element inside a command counts, so that all its text is taken.
    rw [← hclose]
    exact Element.passes_of_ignores hnode opened hopen hinside
  · have hignores : ∀ e, node.element? = some e → s.Ignores e.name := by
      intro e he
      constructor
      · simp [h.depth]
      · simp [h.depth]
      · exact fun _ => .inr ⟨h.target, hother e he⟩
    exact ⟨_, hnode.passes_of_ignores opened hignores, h.takeText hnone⟩

/-- The query text of a definition is gathered while its content is passed over. -/
theorem queryChars {e : Element} (h : InDefinition outer e.content s) :
    s.commandText.getD s.definitionText = e.queryChars := by
  have hcommand := h.command
  rw [Element.queryChars]
  cases hlast : (elementsNamed commandName e.content).getLast? with
  | none =>
    rw [hlast, Option.map_none] at hcommand
    rw [hcommand, Option.getD_none, h.own hcommand]
  | some command =>
    rw [hlast, Option.map_some] at hcommand
    rw [hcommand, Option.getD_some]

end InDefinition

/-! ### Inside an entry -/

/-- What is gathered of an entry when some nodes of it have been passed over. -/
structure InEntry (name : String) (earlier : List Definition) (before : List Node)
    (s : Collector) : Prop where
  depth : s.depth = 2
  found : s.found = earlier
  target : s.target = none
  /-- The last definition counts. -/
  entry : s.entry = some
    ⟨name, (elementsNamed definitionName before).getLast?.bind fun e => e.definition? name⟩

namespace InEntry

variable {name : String} {earlier : List Definition} {s : Collector} {before : List Node}

/-- A node that is no definition leaves everything as it is. -/
theorem skip (h : InEntry name earlier before s) {node : Node}
    (hnode : elementsNamed definitionName [node] = []) :
    InEntry name earlier (before ++ [node]) s := by
  refine ⟨h.depth, h.found, h.target, ?_⟩
  rw [elementsNamed_append, hnode, List.append_nil]
  exact h.entry

/-- A definition takes the place of the one before it. -/
theorem exists_passes_definition (h : InEntry name earlier before s) {e : Element}
    {raw : List Char} (hwritten : e.node.Written raw) (opened : List (List Char))
    (hname : localPart e.name = definitionName) (hdialect : e.dialect?.isSome) :
    ∃ s', Passes opened s raw s' ∧ InEntry name earlier (before ++ [e.node]) s' := by
  have hlast : elementsNamed definitionName [e.node] = [e] := by simp [elementsNamed, hname]
  obtain ⟨d, hd⟩ := Element.exists_definition? name hdialect
  let inside : Collector :=
    { s with
      depth := 3
      entry := some ⟨name, some { d with sql := "" }⟩
      definitionText := []
      commandText := none
      target := some .definition }
  have hopen : ∀ tag : Tag, tag.Shows e → s.takeOpening tag = .ok inside := by
    intro tag htag
    simp [takeOpening, h.depth, h.entry, htag.localName_eq, hname, define, htag.definitionOf_eq hd,
      inside, bind, Except.bind]
  have hinside : InDefinition inside [] inside := ⟨rfl, rfl, rfl, rfl, rfl, fun _ => rfl⟩
  obtain ⟨s₂, hpass, hs₂⟩ :=
    Element.exists_passes_content hwritten opened (InDefinition inside) hopen hinside
      fun _ _ hs _ _ _ hnode => hs.exists_passes hnode (e.name :: opened)
  refine ⟨_, hpass, ?_⟩
  have hclose : s₂.takeClosing e.name = { s₂.closeDefinition with depth := 2 } := by
    simp [takeClosing, hs₂.depth, hs₂.target, localName_mk (Element.isName hwritten), hname]
  rw [hclose]
  refine ⟨rfl, hs₂.found.trans h.found, rfl, ?_⟩
  rw [elementsNamed_append, hlast, List.getLast?_concat]
  simp only [closeDefinition, hs₂.entry, hs₂.queryChars, inside, Option.map_some, Option.bind_some,
    hd, ← Element.sql_eq hd]

/-- Each node of an entry takes what is gathered before it to what is gathered with it. -/
theorem exists_passes (h : InEntry name earlier before s) {node : Node} {raw : List Char}
    (hnode : node.Written raw) (opened : List (List Char))
    (hdialect : ∀ e ∈ elementsNamed definitionName [node], e.dialect?.isSome) :
    ∃ s', Passes opened s raw s' ∧ InEntry name earlier (before ++ [node]) s' := by
  rcases elementsNamed_singleton definitionName node with ⟨e, rfl, hname, hlast⟩ | ⟨hother, hnone⟩
  · exact h.exists_passes_definition hnode opened hname (hdialect e (by simp [hlast]))
  · have hignores : ∀ e, node.element? = some e → s.Ignores e.name := by
      intro e he
      constructor
      · simp [h.depth]
      · exact fun _ => ⟨.inr (hother e he), h.target⟩
      · simp [h.depth]
    have hpass := hnode.passes_of_ignores opened hignores
    rw [takeText_of_target_eq_none h.target] at hpass
    exact ⟨s, hpass, h.skip hnone⟩

end InEntry

/-! ### Inside the root -/

/-- What is gathered of a root when some nodes of it have been passed over. -/
structure InRoot (earlier : List (Option Definition)) (before : List Node) (s : Collector) :
    Prop where
  depth : s.depth = 1
  target : s.target = none
  found : s.found.map some =
    earlier ++ (entriesOf before).map fun (name, e) => e.definition? name

namespace InRoot

variable {earlier : List (Option Definition)} {s : Collector} {before : List Node}

/-- A node that is no entry leaves what is found as it is. -/
theorem skip (h : InRoot earlier before s) {node : Node} (hnode : entriesOf [node] = []) :
    InRoot earlier (before ++ [node]) s := by
  refine ⟨h.depth, h.target, ?_⟩
  rw [entriesOf_append, hnode, List.append_nil]
  exact h.found

/-- The definition of an entry is found when the entry is closed. -/
theorem close (h : InRoot earlier before s) {node : Node} {s₂ : Collector} (hdepth : s₂.depth = 2)
    (htarget : s₂.target = none) (hfound : s₂.found = s.found)
    (hentry : (s₂.entry.bind Entry.definition).toList.map some =
      (entriesOf [node]).map fun (name, e) => e.definition? name) (name : List Char) :
    InRoot earlier (before ++ [node]) (s₂.takeClosing name) := by
  have hclosing : s₂.takeClosing name =
      { s₂ with
        depth := 1
        found := s.found ++ (s₂.entry.bind Entry.definition).toList
        entry := none } := by
    simp [takeClosing, hdepth, hfound]
  rw [hclosing]
  refine ⟨rfl, htarget, ?_⟩
  rw [entriesOf_append, List.map_append, List.map_append, h.found, hentry, List.append_assoc]

/-- A child of the root with a name is an entry if it holds a definition. -/
theorem exists_passes_named (h : InRoot earlier before s) {e : Element} {raw : List Char}
    (hwritten : e.node.Written raw) (opened : List (List Char)) {name : String}
    (hname : e.entryName? = some name) (hsupported : e.Supported) :
    ∃ s', Passes opened s raw s' ∧ InRoot earlier (before ++ [e.node]) s' := by
  let inside : Collector := { s with depth := 2, entry := some ⟨name, none⟩ }
  have hopen : ∀ tag : Tag, tag.Shows e → s.takeOpening tag = .ok inside := by
    intro tag htag
    simp [takeOpening, h.depth, htag.entryName?_eq, hname, inside, bind, Except.bind]
  have hinside : InEntry name s.found [] inside := ⟨rfl, rfl, h.target, rfl⟩
  have hdialect : ∀ d ∈ elementsNamed definitionName e.content, d.dialect?.isSome :=
    hsupported (by rw [hname, Option.isSome_some])
  obtain ⟨s₂, hpass, hs₂⟩ :=
    Element.exists_passes_content hwritten opened (InEntry name s.found) hopen hinside
      fun _ _ hs _ hmem _ hnode => hs.exists_passes hnode (e.name :: opened)
        fun d hd => hdialect d (elementsNamed_subset definitionName hmem hd)
  refine ⟨_, hpass, h.close hs₂.depth hs₂.target hs₂.found ?_ e.name⟩
  -- Without a definition the element is no entry, and nothing is found.
  rw [hs₂.entry, entriesOf_node, Element.entry?, hname]
  simp only [Option.bind_some, Option.bind_eq_bind]
  cases hlast : (elementsNamed definitionName e.content).getLast? with
  | none => rfl
  | some d =>
    obtain ⟨x, hx⟩ := Element.exists_definition? name
      (hdialect d (List.mem_of_getLast? hlast))
    simp [hx]

/-- Each child of the root takes what is gathered before it to what is gathered with it. -/
theorem exists_passes (h : InRoot earlier before s) {node : Node} {raw : List Char}
    (hnode : node.Written raw) (opened : List (List Char))
    (hsupported : ∀ e ∈ elementsOf [node], e.Supported) :
    ∃ s', Passes opened s raw s' ∧ InRoot earlier (before ++ [node]) s' := by
  cases he : node.element? with
  | none =>
    have hpass := hnode.passes_of_not_element opened he s
    rw [takeText_of_target_eq_none h.target] at hpass
    exact ⟨s, hpass, h.skip (by simp [entriesOf, elementsOf_of_not_element he])⟩
  | some e =>
    obtain rfl := Node.eq_node_of_element?_eq_some he
    cases hname : e.entryName? with
    | some name =>
      exact h.exists_passes_named hnode opened hname (hsupported e (by simp))
    | none =>
      let inside : Collector := { s with depth := 2, entry := none }
      have hopen : ∀ tag : Tag, tag.Shows e → s.takeOpening tag = .ok inside := by
        intro tag htag
        simp [takeOpening, h.depth, htag.entryName?_eq, hname, inside, bind, Except.bind]
      have hinside : ∀ name, inside.Ignores name := by
        intro name
        constructor <;> simp [inside, h.target]
      have hpass := Element.passes_of_ignores hnode opened hopen hinside
      have htarget : inside.target = none := h.target
      rw [takeText_of_target_eq_none htarget] at hpass
      refine ⟨_, hpass, h.close rfl htarget rfl ?_ e.name⟩
      rw [entriesOf_node, Element.entry?, hname]
      rfl

end InRoot

/-! ### Around the root -/

/-- What is gathered of a document when some nodes of it have been passed over. -/
structure InDocument (before : List Node) (s : Collector) : Prop where
  depth : s.depth = 0
  target : s.target = none
  found : s.found.map some =
    ((elementsOf before).flatMap fun e => entriesOf e.content).map
      fun (name, e) => e.definition? name

namespace InDocument

variable {s : Collector} {before : List Node}

/-- Each node of a document takes what is gathered before it to what is gathered with it. -/
theorem exists_passes (h : InDocument before s) {node : Node} {raw : List Char}
    (hnode : node.Written raw) (opened : List (List Char))
    (hsupported : ∀ root ∈ elementsOf [node], ∀ e ∈ elementsOf root.content, e.Supported) :
    ∃ s', Passes opened s raw s' ∧ InDocument (before ++ [node]) s' := by
  cases he : node.element? with
  | none =>
    have hpass := hnode.passes_of_not_element opened he s
    rw [takeText_of_target_eq_none h.target] at hpass
    refine ⟨s, hpass, h.depth, h.target, ?_⟩
    rw [elementsOf_append, elementsOf_of_not_element he, List.append_nil]
    exact h.found
  | some root =>
    obtain rfl := Node.eq_node_of_element?_eq_some he
    let inside : Collector := { s with depth := 1 }
    have hopen : ∀ tag : Tag, tag.Shows root → s.takeOpening tag = .ok inside := by
      intro tag _
      simp [takeOpening, h.depth, inside]
    have hinside : InRoot (s.found.map some) [] inside :=
      ⟨rfl, h.target, (List.append_nil _).symm⟩
    have hentries : ∀ e ∈ elementsOf root.content, e.Supported := hsupported root (by simp)
    obtain ⟨s₂, hpass, hs₂⟩ :=
      Element.exists_passes_content hnode opened (InRoot (s.found.map some)) hopen hinside
        fun _ _ hs _ hmem _ hnode => hs.exists_passes hnode (root.name :: opened)
          fun e he => hentries e (elementsOf_subset hmem he)
    have hclose : s₂.takeClosing root.name = { s₂ with depth := 0 } := by
      simp [takeClosing, hs₂.depth]
    refine ⟨_, hpass, ?_⟩
    rw [hclose]
    refine ⟨rfl, hs₂.target, ?_⟩
    rw [hs₂.found, h.found, elementsOf_append, elementsOf_node, List.flatMap_append,
      List.map_append, List.flatMap_singleton]

end InDocument

end Collector

/-! ### Documents -/

namespace Document

variable {d : Document} {text : String}

/-- A document that is read to its end gives what was found. -/
theorem parseDocument_eq {s : Collector} (h : Ends [] {} (withoutMark text.toList) s)
    (hdepth : s.depth = 0) : parseDocument text = .ok s.found := by
  simp [parseDocument, readEvents, h.1, h.2, hdepth, bind, Except.bind]

/-- The definitions read from a document are those of its tree: for each entry one, in order. -/
theorem exists_parseDocument (hwritten : d.Written text) (hsupported : d.Supported) :
    ∃ definitions, parseDocument text = .ok definitions ∧
      definitions.map some =
        (entriesOf d.root.content).map fun (name, e) => e.definition? name := by
  obtain ⟨raw, hraw, htext⟩ := withoutMark_eq hwritten
  have hstart : Collector.InDocument [] {} := ⟨rfl, rfl, rfl⟩
  obtain ⟨s, hpass, hs⟩ := hraw.exists_passes [] Collector.InDocument
    (fun _ _ hs _ hmem _ hnode => hs.exists_passes hnode []
      fun root hroot => by
        have hmem := elementsOf_subset hmem hroot
        rw [elementsOf_nodes, List.mem_singleton] at hmem
        exact hmem ▸ hsupported) hstart
  have hends : Ends [] {} (withoutMark text.toList) s := by
    have hends := hpass [] s (ends_nil [] s)
    rwa [List.append_nil, ← htext] at hends
  refine ⟨s.found, parseDocument_eq hends hs.depth, ?_⟩
  rw [hs.found, List.nil_append, elementsOf_nodes, List.flatMap_singleton]

end Document

/-! ### One document -/

/-- An entry whose definition holds text and a command, and an element without a name. -/
def orders : Document where
  before := [.instruction "xml version=\"1.0\"".toList, .text ['\n']]
  root := ⟨"SqlConfig".toList, [],
    [.element "data".toList [("name".toList, "Orders".toList)]
      [.element "SqlDefinition".toList [("type".toList, "sqlite".toList)]
        [.text "no".toList,
          .element "q:SqlCommand".toList []
            [.text " SELECT 1 ".toList, .comment "no".toList, .text ['<'], .cdata " 2 ".toList]]],
      .element "data".toList [] [.text "no".toList]]⟩
  after := []
  outside := by simp [Node.Outside, Blanks, isSpace]

/-- One way to write it. -/
def ordersText : String :=
  String.ofList <|
    "<?xml version=\"1.0\"?>\n<SqlConfig>".toList ++ "<data name = 'Orders'>".toList ++
    "<SqlDefinition type=\"sqlite\">no".toList ++ "<q:SqlCommand > SELECT 1 ".toList ++
    "<!--no-->&#x3C;<![CDATA[ 2 ]]>".toList ++ "</q:SqlCommand></SqlDefinition>".toList ++
    "</data\n><data>no</data></SqlConfig>".toList

/-- The text is a way to write the document. -/
theorem written_orders : orders.Written ordersText := by
  have hname : WrittenAttributes [("name".toList, "Orders".toList)] " name = 'Orders'".toList :=
    @WrittenAttributes.cons [' '] "name".toList [' '] [' '] _ "Orders".toList [] '\'' []
      (by decide) (by decide) (by decide) (by decide) (by decide) (by decide)
      (.self (by decide) (by decide)) (.nil (by decide))
  have htype : WrittenAttributes [("type".toList, "sqlite".toList)] " type=\"sqlite\"".toList :=
    @WrittenAttributes.cons [' '] "type".toList [] [] _ "sqlite".toList [] '"' []
      (by decide) (by decide) (by decide) (by decide) (by decide) (by decide)
      (.self (by decide) (by decide)) (.nil (by decide))
  have hthree : IsNumeral 16 ['3'] 3 := .digit ⟨by decide, by decide⟩
  have hdigit : IsDigit 16 'C' 12 := ⟨by decide, by decide⟩
  have hentity : EntityName ['#', 'x', '3', 'C'] '<' :=
    .hexadecimal (hthree.snoc hdigit) (by decide)
  have hless : Spells '<' ['<'] _ := .entity hentity .nil
  have hblank : WrittenAttributes [] [' '] := .nil (by decide)
  have hnone : WrittenAttributes [] [] := .nil (by decide)
  have hline : Spells '<' ['\n'] ['\n'] := .self (by decide) (by decide)
  have hno : Spells '<' "no".toList "no".toList := .self (by decide) (by decide)
  have hselect : Spells '<' " SELECT 1 ".toList " SELECT 1 ".toList :=
    .self (by decide) (by decide)
  have hend : Blanks [] := by decide
  have hcommand : NodesWritten
      [.text " SELECT 1 ".toList, .comment "no".toList, .text ['<'], .cdata " 2 ".toList] _ :=
    .cons (.text hselect) (.cons (.comment (by decide)) (.cons (.text hless)
      (.cons (.cdata (by decide)) .nil)))
  have hdefinition : NodesWritten
      [.text "no".toList, .element "q:SqlCommand".toList [] _] _ :=
    .cons (.text hno) (.cons (.element (by decide) hblank hcommand hend) .nil)
  have hdata : NodesWritten
      [.element "SqlDefinition".toList [("type".toList, "sqlite".toList)] _] _ :=
    .cons (.element (by decide) htype hdefinition hend) .nil
  have hroot : NodesWritten orders.root.content _ :=
    .cons (.element (by decide) hname hdata (by decide : Blanks ['\n']))
      (.cons (.element (by decide) hnone (.cons (.text hno) .nil) hend) .nil)
  have hdocument : NodesWritten [orders.root.node] _ :=
    .cons (.element (by decide) hnone hroot hend) .nil
  have hnodes : NodesWritten orders.nodes _ :=
    .cons (.instruction (by decide +kernel)) (.cons (.text hline) hdocument)
  refine ⟨_, hnodes, .inl (String.toList_ofList.trans ?_)⟩
  decide +kernel

/-- The definition is read from it. -/
theorem Document.exists_parseDocument_orders : orders.Written ordersText ∧ orders.Supported ∧
    parseDocument ordersText =
      .ok [{ name := "Orders", dialect := .sqlite, sql := "SELECT 1 < 2" }] := by
  have hsupported : orders.Supported := by decide +kernel
  have hentries : ((entriesOf orders.root.content).map fun (name, e) => e.definition? name) =
      [some { name := "Orders", dialect := .sqlite, sql := "SELECT 1 < 2" }] := by decide +kernel
  obtain ⟨definitions, hread, hmap⟩ := orders.exists_parseDocument written_orders hsupported
  rw [hentries, List.map_eq_singleton_iff] at hmap
  obtain ⟨d, rfl, hd⟩ := hmap
  exact ⟨written_orders, hsupported, by rw [hread, Option.some_inj.1 hd]⟩

end QueryBook.Xml
