import ActionBridge.Proofs.Document.Excerpt

/-!
# First occurrences

An excerpt is a matter of the first occurrences of a few names in the order of the document: of the
header and of the watched actions (`parse_first`). Documents that agree on these (`Alike`) cannot be
told apart, whatever else stands in them and wherever it stands.
-/
namespace ActionBridge

theorem Element.State.text_ofText (s : String) : (ofText s).text = Text.trim s := by
  unfold ofText
  by_cases active : Text.trim s = "ACTIVE"
  · simp [active, text]
  · by_cases ready : Text.trim s = "READY"
    · simp [ready, text]
    · simp [active, ready, text]

theorem Element.State.ofText_congr {s t : String} (same : Text.trim s = Text.trim t) :
    ofText s = ofText t := by
  unfold ofText
  rw [same]

namespace Excerpt

variable {space label : String} {watched : List String} {root other node : Xml.Node}
  {excerpt : Excerpt}

/-! ## Occurrences -/

/-- An element of the name stands somewhere in the document. -/
def Occurs (space label : String) (root : Xml.Node) : Prop :=
  ∃ node ∈ root.preorder, node.isNamed ⟨some space, label⟩

/-- The node is the first element of the name in the order of the document. -/
def First (space label : String) (root node : Xml.Node) : Prop :=
  node.isNamed ⟨some space, label⟩ ∧
    ∃ before after, root.preorder = before ++ node :: after ∧
      ∀ earlier ∈ before, ¬ earlier.isNamed ⟨some space, label⟩

instance (space label : String) (root : Xml.Node) : Decidable (Occurs space label root) :=
  inferInstanceAs (Decidable (∃ node ∈ root.preorder, node.isNamed ⟨some space, label⟩))

theorem first?_eq_none_iff : first? space label root = none ↔ ¬ Occurs space label root := by
  simp [first?, Xml.Node.find?, Occurs]

theorem first?_eq_some_iff : first? space label root = some node ↔ First space label root node := by
  simp [first?, Xml.Node.find?, First, List.find?_eq_some_iff_append]

theorem First.unique {node₁ : Xml.Node} (first : First space label root node)
    (first₁ : First space label root node₁) : node = node₁ :=
  Option.some.inj ((first?_eq_some_iff.mpr first).symm.trans (first?_eq_some_iff.mpr first₁))

theorem First.occurs (first : First space label root node) : Occurs space label root := by
  obtain ⟨named, before, after, split, -⟩ := first
  refine ⟨node, ?_, named⟩
  rw [split]
  exact List.mem_append_right _ List.mem_cons_self

/-! ## The elements of an excerpt -/

/-- The element is what the first occurrence of its action says. -/
def Tells (space : String) (root : Xml.Node) (e : Element) : Prop :=
  ∃ node, First space e.action root node ∧ node.attribute? "name" = some e.handshake ∧
    e.state = .ofText node.content

/-- The elements are those of the watched actions that occur, in the order of the actions. -/
theorem Picks.action_eq {picked : Except ParseFault (List Element)}
    (picks : Picks space root watched picked) {es : List Element} (taken : picked = .ok es) :
    es.map Element.action = watched.filter (Occurs space · root) := by
  induction picks generalizing es with
  | nil =>
    cases taken
    rfl
  | nameless found bare => cases taken
  | spoiled found named later ih => cases taken
  | absent missing later ih =>
    rw [ih taken, List.filter_cons_of_neg]
    simpa using first?_eq_none_iff.mp missing
  | named found named later ih =>
    cases taken
    rw [List.map_cons, ih rfl, List.filter_cons_of_pos]
    · rfl
    · simpa using (first?_eq_some_iff.mp found).occurs

theorem Picks.tells {picked : Except ParseFault (List Element)}
    (picks : Picks space root watched picked) {es : List Element} (taken : picked = .ok es) :
    ∀ e ∈ es, Tells space root e := by
  induction picks generalizing es with
  | nil =>
    cases taken
    nofun
  | nameless found bare => cases taken
  | spoiled found named later ih => cases taken
  | absent missing later ih => exact ih taken
  | @named action handshake watched node es found named later ih =>
    cases taken
    have told : Tells space root (.ofTexts action node.content handshake) :=
      ⟨node, first?_eq_some_iff.mp found, named, rfl⟩
    exact List.forall_mem_cons.mpr ⟨told, ih rfl⟩

/-- The elements are there as soon as every first occurrence has a name. -/
theorem exists_elementsOf (named : ∀ action ∈ watched, ∀ node, First space action root node →
    ∃ handshake, node.attribute? "name" = some handshake) :
    ∃ es, elementsOf space root watched = .ok es := by
  cases picked : elementsOf space root watched with
  | ok es => exact ⟨es, rfl⟩
  | error fault =>
    obtain ⟨action, member, node, found, bare, -⟩ :=
      (elementsOf_picks space root watched).exists_nameless picked
    obtain ⟨handshake, given⟩ := named action member node (first?_eq_some_iff.mp found)
    exact nomatch bare.symm.trans given

/-! ## Alike documents -/

/-- Both documents lack the name, or the facts about the first element of the name are the same. -/
inductive Agree {α : Type} (space label : String) (facts : Xml.Node → α) (root other : Xml.Node) : Prop
  | absent (lacks : ¬ Occurs space label root) (lacks₁ : ¬ Occurs space label other)
  | present {node node₁ : Xml.Node} (first : First space label root node)
      (first₁ : First space label other node₁) (same : facts node = facts node₁)

/-- What counts of the header. -/
def headerFacts (node : Xml.Node) : Option String :=
  node.attribute? "nextSequence"

/-- What counts of the element of a watched action. -/
def elementFacts (node : Xml.Node) : Option String × String :=
  (node.attribute? "name", Text.trim node.content)

/-- Two documents say the same in the places that count. -/
structure Alike (space : String) (watched : List String) (root other : Xml.Node) : Prop where
  header : Agree space "Header" headerFacts root other
  elements : ∀ action ∈ watched, Agree space action elementFacts root other

theorem agree_iff {α : Type} {facts : Xml.Node → α} : Agree space label facts root other ↔
    (first? space label root).map facts = (first? space label other).map facts := by
  constructor
  · intro agree
    cases agree with
    | absent lacks lacks₁ => rw [first?_eq_none_iff.mpr lacks, first?_eq_none_iff.mpr lacks₁]
    | present first first₁ same =>
      rw [first?_eq_some_iff.mpr first, first?_eq_some_iff.mpr first₁, Option.map_some, same,
        Option.map_some]
  · intro same
    cases found : first? space label root with
    | none =>
      rw [found, Option.map_none, eq_comm, Option.map_eq_none_iff] at same
      exact .absent (first?_eq_none_iff.mp found) (first?_eq_none_iff.mp same)
    | some node =>
      rw [found, Option.map_some, eq_comm, Option.map_eq_some_iff] at same
      obtain ⟨node₁, found₁, same⟩ := same
      exact .present (first?_eq_some_iff.mp found) (first?_eq_some_iff.mp found₁) same.symm

theorem alike_iff : Alike space watched root other ↔
    (first? space "Header" root).map headerFacts = (first? space "Header" other).map headerFacts ∧
      ∀ action ∈ watched,
        (first? space action root).map elementFacts = (first? space action other).map elementFacts := by
  constructor
  · rintro ⟨header, elements⟩
    exact ⟨agree_iff.mp header, fun action member => agree_iff.mp (elements action member)⟩
  · rintro ⟨header, elements⟩
    exact ⟨agree_iff.mpr header, fun action member => agree_iff.mpr (elements action member)⟩

instance (space : String) (watched : List String) (root other : Xml.Node) :
    Decidable (Alike space watched root other) :=
  decidable_of_iff' _ alike_iff

theorem elementsOf_congr (agree : ∀ action ∈ watched, Agree space action elementFacts root other) :
    elementsOf space root watched = elementsOf space other watched := by
  induction watched with
  | nil => rfl
  | cons action watched ih =>
    have later := ih fun action₁ member => agree action₁ (List.mem_cons_of_mem _ member)
    rw [elementsOf, elementsOf, later]
    cases agree action List.mem_cons_self with
    | absent lacks lacks₁ => rw [first?_eq_none_iff.mpr lacks, first?_eq_none_iff.mpr lacks₁]
    | present first first₁ same =>
      obtain ⟨names, texts⟩ := Prod.mk.inj same
      have states := Element.State.ofText_congr texts
      simp only [first?_eq_some_iff.mpr first, first?_eq_some_iff.mpr first₁, names, Element.ofTexts,
        states]

theorem ofDocument_congr (alike : Alike space watched root other) :
    ofDocument space watched root = ofDocument space watched other := by
  rw [ofDocument, ofDocument, elementsOf_congr alike.elements]
  cases alike.header with
  | absent lacks lacks₁ => rw [first?_eq_none_iff.mpr lacks, first?_eq_none_iff.mpr lacks₁]
  | present first first₁ same =>
    rw [headerFacts, headerFacts] at same
    simp only [first?_eq_some_iff.mpr first, first?_eq_some_iff.mpr first₁, same]

/-! ## Excerpts -/

/-- A document has what an excerpt of it needs. -/
structure Complete (space : String) (watched : List String) (root : Xml.Node) : Prop where
  sequence : ∃ header sequence, First space "Header" root header ∧
    header.attribute? "nextSequence" = some sequence
  names : ∀ action ∈ watched, ∀ node, First space action root node →
    ∃ handshake, node.attribute? "name" = some handshake

/-- The excerpt is what the first occurrences of the document say. -/
structure Reports (space : String) (watched : List String) (root : Xml.Node) (excerpt : Excerpt) :
    Prop where
  sequence : ∃ header, First space "Header" root header ∧
    header.attribute? "nextSequence" = some excerpt.nextSequence
  actions : excerpt.elements.map Element.action = watched.filter (Occurs space · root)
  elements : ∀ e ∈ excerpt.elements, Tells space root e

theorem reports_of_ofDocument (made : ofDocument space watched root = .ok excerpt) :
    Reports space watched root excerpt := by
  have extracts := ofDocument_extracts space watched root
  rw [made] at extracts
  cases extracts with
  | made found sequenced picks =>
    exact ⟨⟨_, first?_eq_some_iff.mp found, sequenced⟩, picks.action_eq rfl, picks.tells rfl⟩

theorem complete_of_ofDocument (made : ofDocument space watched root = .ok excerpt) :
    Complete space watched root := by
  have extracts := ofDocument_extracts space watched root
  rw [made] at extracts
  cases extracts with
  | made found sequenced picks =>
    refine ⟨⟨_, _, first?_eq_some_iff.mp found, sequenced⟩, ?_⟩
    intro action member node first
    exact picks.exists_name rfl member (first?_eq_some_iff.mpr first)

theorem Complete.exists_ofDocument (complete : Complete space watched root) :
    ∃ excerpt, ofDocument space watched root = .ok excerpt := by
  obtain ⟨⟨header, sequence, first, sequenced⟩, names⟩ := complete
  obtain ⟨es, picked⟩ := exists_elementsOf names
  refine ⟨⟨sequence, es⟩, ?_⟩
  simp [ofDocument, first?_eq_some_iff.mpr first, sequenced, picked, Except.map]

theorem parse_eq {text : String} (read : Xml.read? text = some root) :
    parse space watched text = ofDocument space watched root := by
  simp only [parse, read]

/-- An excerpt of a document is made exactly if the first header has a sequence number and the first
    occurrence of each watched action that occurs has a name. It then has these for the watched
    actions that occur, in their order and each once. Alike documents have the same result, be it an
    excerpt or a fault. -/
theorem parse_first {text text₁ : String} (read : Xml.read? text = some root)
    (read₁ : Xml.read? text₁ = some other) (distinct : watched.Nodup) :
    ((∃ excerpt, parse space watched text = .ok excerpt) ↔ Complete space watched root) ∧
      (∀ excerpt, parse space watched text = .ok excerpt →
        Reports space watched root excerpt ∧ (excerpt.elements.map Element.action).Nodup ∧
          ∀ e ∈ excerpt.elements, ∃ node, First space e.action root node ∧
            e.state.text = Text.trim node.content) ∧
      (Alike space watched root other → parse space watched text = parse space watched text₁) := by
  rw [parse_eq read, parse_eq read₁]
  refine ⟨⟨?_, Complete.exists_ofDocument⟩, ?_, ofDocument_congr⟩
  · rintro ⟨excerpt, made⟩
    exact complete_of_ofDocument made
  · intro excerpt made
    have reports := reports_of_ofDocument made
    refine ⟨reports, ?_, ?_⟩
    · rw [reports.actions]
      exact distinct.filter _
    · intro e member
      obtain ⟨node, first, -, state⟩ := reports.elements e member
      exact ⟨node, first, by rw [state, Element.State.text_ofText]⟩

/-- A document of two watched elements. -/
def flat : String :=
  "<Streams xmlns=\"urn:m\"><Header nextSequence=\"7\"/><Open name=\"a\"> ACTIVE </Open>"
    ++ "<Close name=\"b\">READY</Close></Streams>"

/-- The same elements deeper and in another order, with others of their names around them. -/
def nested : String :=
  "<m:Streams xmlns:m=\"urn:m\"><Open>READY</Open><m:Part><m:Close name=\"b\">READY<Spare/></m:Close>"
    ++ "<m:Open name=\"a\">ACTIVE</m:Open></m:Part><m:Header nextSequence=\"7\"/><m:Open/></m:Streams>"

theorem parse_first_nested : ∃ root other, Xml.read? flat = some root ∧ Xml.read? nested = some other ∧
    ["Open", "Close"].Nodup ∧ Complete "urn:m" ["Open", "Close"] root ∧
      Alike "urn:m" ["Open", "Close"] root other ∧
      parse "urn:m" ["Open", "Close"] flat = parse "urn:m" ["Open", "Close"] nested ∧
      parse "urn:m" ["Open", "Close"] flat =
        .ok ⟨"7", [⟨"Open", .active, "a"⟩, ⟨"Close", .ready, "b"⟩]⟩ := by
  have distinct : ["Open", "Close"].Nodup := by decide
  obtain ⟨root, read, other, read₁, alike, taken⟩ :
      ∃ root ∈ Xml.read? flat, ∃ other ∈ Xml.read? nested, Alike "urn:m" ["Open", "Close"] root other ∧
        (ofDocument "urn:m" ["Open", "Close"] root).toOption =
          some ⟨"7", [⟨"Open", .active, "a"⟩, ⟨"Close", .ready, "b"⟩]⟩ := by decide +kernel
  obtain ⟨exactly, -, congruent⟩ := parse_first read read₁ distinct
  rw [← parse_eq read] at taken
  cases made : parse "urn:m" ["Open", "Close"] flat with
  | error fault =>
    rw [made] at taken
    cases taken
  | ok excerpt =>
    rw [made] at taken
    obtain rfl := Option.some.inj taken
    exact ⟨root, other, read, read₁, distinct, exactly.mp ⟨_, made⟩, alike,
      made.symm.trans (congruent alike), rfl⟩

end Excerpt
end ActionBridge
