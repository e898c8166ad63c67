import ActionBridge.Document.Excerpt

/-!
# Flaws of documents

Bytes are of no use as a document of the agent exactly if they have one of five flaws (`Flaw`,
`exists_error_iff`), and the fault that is reported is a flaw that they have (`flaw_of_parseBytes`).
Of what becomes of the elements (`Picks`) and of the document (`Extracts`) the rest follows.
-/
namespace ActionBridge.Excerpt

variable {space : String} {watched : List String} {bytes : List UInt8} {root : Xml.Node}
  {fault : ParseFault}

/-! ## Elements -/

/-- What becomes of the elements of the watched actions of a document. -/
inductive Picks (space : String) (root : Xml.Node) :
    List String → Except ParseFault (List Element) → Prop
  | nil : Picks space root [] (.ok [])
  | absent {action : String} {watched : List String} {picked : Except ParseFault (List Element)}
      (missing : first? space action root = none) (later : Picks space root watched picked) :
      Picks space root (action :: watched) picked
  | nameless {action : String} {watched : List String} {node : Xml.Node}
      (found : first? space action root = some node) (bare : node.attribute? "name" = none) :
      Picks space root (action :: watched) (.error (.nameMissing action))
  | spoiled {action handshake : String} {watched : List String} {node : Xml.Node} {fault : ParseFault}
      (found : first? space action root = some node)
      (named : node.attribute? "name" = some handshake)
      (later : Picks space root watched (.error fault)) :
      Picks space root (action :: watched) (.error fault)
  | named {action handshake : String} {watched : List String} {node : Xml.Node} {es : List Element}
      (found : first? space action root = some node)
      (named : node.attribute? "name" = some handshake)
      (later : Picks space root watched (.ok es)) :
      Picks space root (action :: watched) (.ok (.ofTexts action node.content handshake :: es))

theorem elementsOf_picks (space : String) (root : Xml.Node) (watched : List String) :
    Picks space root watched (elementsOf space root watched) := by
  induction watched with
  | nil => exact .nil
  | cons action watched ih =>
    rw [elementsOf]
    cases found : first? space action root with
    | none => exact .absent found ih
    | some node =>
      cases named : node.attribute? "name" with
      | none =>
        simp only [named]
        exact .nameless found named
      | some handshake =>
        simp only [named]
        cases picked : elementsOf space root watched with
        | error fault => exact .spoiled found named (picked ▸ ih)
        | ok es => exact .named found named (picked ▸ ih)

/-- The action at fault is one whose element has no name. -/
theorem Picks.exists_nameless {picked : Except ParseFault (List Element)}
    (picks : Picks space root watched picked) (failed : picked = .error fault) :
    ∃ action ∈ watched, ∃ node, first? space action root = some node ∧
      node.attribute? "name" = none ∧ fault = .nameMissing action := by
  induction picks with
  | nil => cases failed
  | @nameless action watched node found bare =>
    cases failed
    exact ⟨action, List.mem_cons_self, node, found, bare, rfl⟩
  | named found named later => cases failed
  | absent missing later ih =>
    obtain ⟨action, member, rest⟩ := ih failed
    exact ⟨action, List.mem_cons_of_mem _ member, rest⟩
  | spoiled found named later ih =>
    obtain ⟨action, member, rest⟩ := ih failed
    exact ⟨action, List.mem_cons_of_mem _ member, rest⟩

/-- Where the elements are picked none of them is without a name. -/
theorem Picks.exists_name {picked : Except ParseFault (List Element)}
    (picks : Picks space root watched picked) {es : List Element} (taken : picked = .ok es)
    {action : String} (member : action ∈ watched) {node : Xml.Node}
    (found : first? space action root = some node) :
    ∃ handshake, node.attribute? "name" = some handshake := by
  induction picks generalizing es with
  | nil => cases member
  | nameless found bare => cases taken
  | spoiled found named later ih => cases taken
  | absent missing later ih =>
    rcases List.mem_cons.mp member with rfl | member
    · exact nomatch missing.symm.trans found
    · exact ih taken member
  | @named first handshake watched other es here named later ih =>
    rcases List.mem_cons.mp member with rfl | member
    · obtain rfl := Option.some.inj (here.symm.trans found)
      exact ⟨handshake, named⟩
    · exact ih rfl member

/-- Only watched actions have elements. -/
theorem Picks.action_mem {picked : Except ParseFault (List Element)}
    (picks : Picks space root watched picked) {es : List Element} (taken : picked = .ok es) :
    ∀ e ∈ es, e.action ∈ watched := by
  induction picks generalizing es with
  | nil =>
    cases taken
    nofun
  | nameless found bare => cases taken
  | spoiled found named later ih => cases taken
  | absent missing later ih => exact fun e member => List.mem_cons_of_mem _ (ih taken e member)
  | named found named later ih =>
    cases taken
    exact List.forall_mem_cons.mpr
      ⟨List.mem_cons_self, fun e member => List.mem_cons_of_mem _ (ih rfl e member)⟩

/-! ## Documents -/

/-- What becomes of a document. -/
inductive Extracts (space : String) (watched : List String) (root : Xml.Node) :
    Except ParseFault Excerpt → Prop
  | headerless (absent : first? space "Header" root = none) :
      Extracts space watched root (.error .headerMissing)
  | sequenceless {header : Xml.Node} (found : first? space "Header" root = some header)
      (bare : header.attribute? "nextSequence" = none) :
      Extracts space watched root (.error .sequenceMissing)
  | spoiled {header : Xml.Node} {sequence : String} {fault : ParseFault}
      (found : first? space "Header" root = some header)
      (sequenced : header.attribute? "nextSequence" = some sequence)
      (picks : Picks space root watched (.error fault)) : Extracts space watched root (.error fault)
  | made {header : Xml.Node} {sequence : String} {es : List Element}
      (found : first? space "Header" root = some header)
      (sequenced : header.attribute? "nextSequence" = some sequence)
      (picks : Picks space root watched (.ok es)) :
      Extracts space watched root (.ok ⟨sequence, es⟩)

theorem ofDocument_extracts (space : String) (watched : List String) (root : Xml.Node) :
    Extracts space watched root (ofDocument space watched root) := by
  rw [ofDocument]
  cases found : first? space "Header" root with
  | none => exact .headerless found
  | some header =>
    cases sequenced : header.attribute? "nextSequence" with
    | none =>
      simp only [sequenced]
      exact .sequenceless found sequenced
    | some sequence =>
      have picks := elementsOf_picks space root watched
      simp only [sequenced]
      cases picked : elementsOf space root watched with
      | error fault => exact .spoiled found sequenced (picked ▸ picks)
      | ok es => exact .made found sequenced (picked ▸ picks)

/-- Bytes are the text of a document with the given root. -/
def Writes (bytes : List UInt8) (root : Xml.Node) : Prop :=
  ∃ text, Utf8.decode bytes = .ok text ∧ Xml.read? text = some root

theorem Writes.unique {other : Xml.Node} (writes : Writes bytes root) (others : Writes bytes other) :
    root = other := by
  obtain ⟨text, decoded, read⟩ := writes
  obtain ⟨text₁, decoded₁, read₁⟩ := others
  obtain rfl := Except.ok.inj (decoded.symm.trans decoded₁)
  exact Option.some.inj (read.symm.trans read₁)

/-- Bytes are no text, or a text that is no document, or a document. -/
theorem parseBytes_cases (space : String) (watched : List String) (bytes : List UInt8) :
    (∃ fault, Utf8.decode bytes = .error fault ∧
        parseBytes space watched bytes = .error (.notUtf8 fault)) ∨
      (∃ text, Utf8.decode bytes = .ok text ∧ Xml.read? text = none ∧
        parseBytes space watched bytes = .error .malformed) ∨
      ∃ root, Writes bytes root ∧ parseBytes space watched bytes = ofDocument space watched root := by
  unfold parseBytes parse
  cases decoded : Utf8.decode bytes with
  | error fault => exact .inl ⟨fault, rfl, rfl⟩
  | ok text =>
    cases read : Xml.read? text with
    | none => exact .inr (.inl ⟨text, rfl, read, by simp only [read]⟩)
    | some root => exact .inr (.inr ⟨root, ⟨text, decoded, read⟩, by simp only [read]⟩)

/-- An excerpt is made of a document with a header, a sequence number and a name for each element. -/
theorem exists_of_parseBytes {excerpt : Excerpt} (made : parseBytes space watched bytes = .ok excerpt) :
    ∃ root, Writes bytes root ∧ Extracts space watched root (.ok excerpt) := by
  rcases parseBytes_cases space watched bytes with
    ⟨unread, decoded, ended⟩ | ⟨text, decoded, read, ended⟩ | ⟨root, writes, ended⟩
  · cases ended.symm.trans made
  · cases ended.symm.trans made
  · exact ⟨root, writes, made ▸ ended ▸ ofDocument_extracts space watched root⟩

/-- The bridge sees elements of watched actions only. -/
theorem action_mem_of_parseBytes {excerpt : Excerpt}
    (made : parseBytes space watched bytes = .ok excerpt) : ∀ e ∈ excerpt.elements, e.action ∈ watched := by
  obtain ⟨root, writes, extracts⟩ := exists_of_parseBytes made
  cases extracts with
  | made found sequenced picks => exact picks.action_mem rfl

/-! ## Flaws -/

/-- What bytes can lack as a document of which the `watched` actions count in the namespace `space`.
    The element of an action is the first one of its name, whatever is right with the others. -/
inductive Flaw (space : String) (watched : List String) (bytes : List UInt8) : ParseFault → Prop
  | notUtf8 {fault : Utf8.Fault} (undecoded : Utf8.decode bytes = .error fault) :
      Flaw space watched bytes (.notUtf8 fault)
  | malformed {text : String} (decoded : Utf8.decode bytes = .ok text)
      (unread : Xml.read? text = none) : Flaw space watched bytes .malformed
  | headerMissing {root : Xml.Node} (writes : Writes bytes root)
      (absent : first? space "Header" root = none) : Flaw space watched bytes .headerMissing
  | sequenceMissing {root header : Xml.Node} (writes : Writes bytes root)
      (found : first? space "Header" root = some header)
      (bare : header.attribute? "nextSequence" = none) : Flaw space watched bytes .sequenceMissing
  | nameMissing {root node : Xml.Node} {action : String} (writes : Writes bytes root)
      (member : action ∈ watched) (found : first? space action root = some node)
      (bare : node.attribute? "name" = none) : Flaw space watched bytes (.nameMissing action)

/-- The fault that is reported is a flaw of the bytes. -/
theorem flaw_of_parseBytes (failed : parseBytes space watched bytes = .error fault) :
    Flaw space watched bytes fault := by
  rcases parseBytes_cases space watched bytes with
    ⟨unread, decoded, ended⟩ | ⟨text, decoded, read, ended⟩ | ⟨root, writes, ended⟩
  · cases ended.symm.trans failed
    exact .notUtf8 decoded
  · cases ended.symm.trans failed
    exact .malformed decoded read
  · have extracts := ofDocument_extracts space watched root
    rw [← ended, failed] at extracts
    cases extracts with
    | headerless absent => exact .headerMissing writes absent
    | sequenceless found bare => exact .sequenceMissing writes found bare
    | spoiled found sequenced picks =>
      obtain ⟨action, member, node, first, bare, rfl⟩ := picks.exists_nameless rfl
      exact .nameMissing writes member first bare

/-- A document of which an excerpt is made has no flaw. -/
theorem not_flaw_of_parseBytes {excerpt : Excerpt}
    (made : parseBytes space watched bytes = .ok excerpt) : ¬ Flaw space watched bytes fault := by
  intro flaw
  obtain ⟨root, ⟨text, decoded, read⟩, extracts⟩ := exists_of_parseBytes made
  cases extracts with
  | made found sequenced picks =>
    cases flaw with
    | notUtf8 undecoded => exact nomatch decoded.symm.trans undecoded
    | malformed decoded₁ unread =>
      obtain rfl := Except.ok.inj (decoded.symm.trans decoded₁)
      exact nomatch read.symm.trans unread
    | headerMissing others absent =>
      obtain rfl := others.unique ⟨text, decoded, read⟩
      exact nomatch found.symm.trans absent
    | sequenceMissing others found₁ bare =>
      obtain rfl := others.unique ⟨text, decoded, read⟩
      obtain rfl := Option.some.inj (found.symm.trans found₁)
      exact nomatch sequenced.symm.trans bare
    | nameMissing others member first bare =>
      obtain rfl := others.unique ⟨text, decoded, read⟩
      obtain ⟨handshake, named⟩ := picks.exists_name rfl member first
      exact nomatch named.symm.trans bare

/-- An excerpt cannot be made of bytes exactly if these have a flaw. -/
theorem exists_error_iff : (∃ fault, parseBytes space watched bytes = .error fault) ↔
    ∃ fault, Flaw space watched bytes fault := by
  constructor
  · exact fun ⟨fault, failed⟩ => ⟨fault, flaw_of_parseBytes failed⟩
  · rintro ⟨fault, flaw⟩
    cases made : parseBytes space watched bytes with
    | error fault => exact ⟨fault, rfl⟩
    | ok excerpt => exact absurd flaw (not_flaw_of_parseBytes made)

end ActionBridge.Excerpt
