import FileMode.Document.Assembly
import FileMode.Document.Meaning
import FileMode.Proofs.TokenSources

/-!
Nodes of tokens without tags. Every collection is then of its usual kind, and every scalar is either
read as a text or of the kind that its own text has the form of; its plain scalars are those of the
tokens, and missing ones (`Node.of_ofTokens`). What the value of such a node can lack is only what
the meaning of one of its plain scalars lacks, or a node does not suit its place
(`Node.value_faults`).

The first statement is an invariant of the assembly of a node: one lemma for each step, and the run
over the tokens by induction. The second follows the recursion on the node.
-/

namespace FileMode.Document

variable {W : List Char → Prop}

/-- A token that is no tag. The text of a plain scalar satisfies `W`, and a fault satisfies `P`. -/
def Token.Untagged (P : Fault → Prop) (W : List Char → Prop) : Token → Prop
  | .tag _ => False
  | .scalar text true => W text.toList
  | .fault f => P f
  | _ => True

/-- A node without tags: its kind is the usual one, and the text of a plain scalar satisfies `W` or
is missing. -/
inductive Node.Of (W : List Char → Prop) : Node → Prop where
  | plain {text : List Char} (made : text = [] ∨ W text) : Of W (.scalar (.ofPlain text) text)
  | text (text : List Char) : Of W (.scalar .text text)
  | sequence {items : List Node} (members : ∀ n ∈ items, Of W n) : Of W (.sequence .sequence items)
  | mapping {entries : List (Node × Node)} (keys : ∀ e ∈ entries, Of W e.1)
      (values : ∀ e ∈ entries, Of W e.2) : Of W (.mapping .mapping entries)

theorem Node.Of.missing : Node.missing.Of W := .plain (.inl rfl)

theorem Node.Of.pair {k v : Node} (key : k.Of W) (value : v.Of W) :
    (Node.mapping .mapping [(k, v)]).Of W :=
  .mapping (List.forall_mem_singleton.mpr key) (List.forall_mem_singleton.mpr value)

def EntriesOf (W : List Char → Prop) (entries : List (Node × Node)) : Prop :=
  ∀ e ∈ entries, e.1.Of W ∧ e.2.Of W

theorem EntriesOf.cons {k v : Node} {entries : List (Node × Node)} (key : k.Of W) (value : v.Of W)
    (members : EntriesOf W entries) : EntriesOf W ((k, v) :: entries) :=
  List.forall_mem_cons.mpr ⟨⟨key, value⟩, members⟩

/-- What an open mapping waits for, with a key that is such a node. -/
def PairStage.Of (W : List Char → Prop) : PairStage → Prop
  | .colon k => k.Of W
  | .value k => k.Of W
  | _ => True

/-- An open collection without a tag, the members of which are such nodes. -/
def OpenNode.Of (W : List Char → Prop) : OpenNode → Prop
  | .blockSequence p items _ => p.tag = none ∧ ∀ n ∈ items, n.Of W
  | .flushSequence p items _ => p.tag = none ∧ ∀ n ∈ items, n.Of W
  | .blockMapping p entries stage => p.tag = none ∧ EntriesOf W entries ∧ stage.Of W
  | .flowSequence p items stage => p.tag = none ∧ (∀ n ∈ items, n.Of W) ∧ stage.Of W
  | .flowMapping p entries stage => p.tag = none ∧ EntriesOf W entries ∧ stage.Of W

def Root.Of (W : List Char → Prop) : Root → Prop
  | .complete n => n.Of W
  | .closed n => n.Of W
  | .ended (some n) => n.Of W
  | _ => True

namespace Assembly

/-- A state in which no tag has been read, and all nodes are without tags. -/
structure Of (W : List Char → Prop) (a : Assembly) : Prop where
  root : a.root.Of W
  openNodes : ∀ o ∈ a.openNodes, o.Of W
  pending : a.pending.tag = none
  anchors : ∀ e ∈ a.anchors, e.2.Of W

/-- A step to such a state, unless the text does not follow the grammar. -/
abbrev Keeps (W : List Char → Prop) (x : Except Fault Assembly) : Prop :=
  Yields (· = .malformed) (Of W) x

variable {P : Fault → Prop} {a : Assembly}

theorem Of.into {o : OpenNode} {rest : List OpenNode} (made : a.Of W) (top : o.Of W)
    (others : ∀ o ∈ rest, o.Of W) :
    Of W { a with openNodes := o :: rest, pending := .none } :=
  ⟨made.root, List.forall_mem_cons.mpr ⟨top, others⟩, rfl, made.anchors⟩

/-- A node that is due finds its place. -/
theorem Of.place (made : a.Of W) {n : Node} (node : n.Of W) : Keeps W (a.place n) := by
  unfold Assembly.place
  cases opened : a.openNodes with
  | nil =>
      cases same : a.root with
      | content marked => exact ⟨node, opened ▸ made.openNodes, rfl, made.anchors⟩
      | _ => rfl
  | cons o rest =>
      obtain ⟨top, others⟩ := List.forall_mem_cons.mp (opened ▸ made.openNodes)
      cases o with
      | blockSequence p items stage =>
          cases stage with
          | dash => rfl
          | item => exact made.into ⟨top.1, List.forall_mem_cons.mpr ⟨node, top.2⟩⟩ others
      | flushSequence p items stage =>
          cases stage with
          | dash => rfl
          | item => exact made.into ⟨top.1, List.forall_mem_cons.mpr ⟨node, top.2⟩⟩ others
      | blockMapping p entries stage =>
          obtain ⟨untagged, members, waits⟩ := top
          cases stage with
          | key => exact made.into ⟨untagged, members, node⟩ others
          | value k =>
              exact made.into ⟨untagged, members.cons waits node, trivial⟩ others
          | _ => rfl
      | flowSequence p items stage =>
          obtain ⟨untagged, members, waits⟩ := top
          cases stage with
          | start =>
              exact made.into ⟨untagged, List.forall_mem_cons.mpr ⟨node, members⟩, trivial⟩ others
          | key => exact made.into ⟨untagged, members, node⟩ others
          | value k =>
              exact made.into
                ⟨untagged, List.forall_mem_cons.mpr ⟨.pair waits node, members⟩, trivial⟩ others
          | _ => rfl
      | flowMapping p entries stage =>
          obtain ⟨untagged, members, waits⟩ := top
          cases stage with
          | start =>
              exact made.into ⟨untagged, members.cons node .missing, trivial⟩ others
          | key => exact made.into ⟨untagged, members, node⟩ others
          | value k =>
              exact made.into ⟨untagged, members.cons waits node, trivial⟩ others
          | _ => rfl

theorem Of.enter (made : a.Of W) (anchor : Option String) {n : Node} (node : n.Of W) :
    Keeps W (a.enter anchor n) := by
  unfold Assembly.enter
  split
  · exact made
  · exact .ite rfl ⟨made.root, made.openNodes, made.pending,
      List.forall_mem_cons.mpr ⟨node, made.anchors⟩⟩

theorem Of.scalar (made : a.Of W) {text : List Char} {plain : Bool}
    (given : plain = true → text = [] ∨ W text) :
    Keeps W (a.scalar text plain) := by
  have node : (Node.scalar (a.pending.scalarTag text plain) text).Of W := by
    rw [Properties.scalarTag, made.pending]
    cases plain with
    | true => exact .plain (given rfl)
    | false => exact .text text
  exact (made.enter _ node).bind fun _ entered => entered.place node

theorem Of.openWith (made : a.Of W) (usual : Tag) {empty : Tag → Node} (node : (empty usual).Of W)
    {make : Properties → OpenNode} (opens : ∀ p : Properties, p.tag = none → (make p).Of W) :
    Keeps W (a.openWith usual empty make) := by
  have untagged : a.pending.collectionTag usual = usual := by
    rw [Properties.collectionTag, made.pending]
  simp only [Assembly.openWith, untagged]
  exact (made.enter _ node).bind fun b entered =>
    entered.into (opens a.pending made.pending) entered.openNodes

theorem Of.openSequence (made : a.Of W) {make : Properties → OpenNode}
    (opens : ∀ p : Properties, p.tag = none → (make p).Of W) : Keeps W (a.openSequence make) :=
  made.openWith .sequence (.sequence (List.forall_mem_nil _)) opens

theorem Of.openMapping (made : a.Of W) {make : Properties → OpenNode}
    (opens : ∀ p : Properties, p.tag = none → (make p).Of W) : Keeps W (a.openMapping make) :=
  made.openWith .mapping (.mapping (List.forall_mem_nil _) (List.forall_mem_nil _)) opens

theorem Of.closeWith (made : a.Of W) (p : Properties) {n : Node} (node : n.Of W) :
    Keeps W (a.closeWith p n) := by
  have opened : ∀ o ∈ a.openNodes.drop 1, o.Of W :=
    fun o member => made.openNodes o (List.mem_of_mem_drop member)
  have closed {anchors : List (String × Node)} (marked : ∀ e ∈ anchors, e.2.Of W) :
      Of W { a with openNodes := a.openNodes.drop 1, anchors := anchors } :=
    ⟨made.root, opened, made.pending, marked⟩
  unfold Assembly.closeWith
  cases p.anchor with
  | none => exact (closed made.anchors).place node
  | some name =>
      refine (closed fun e member => ?_).place node
      obtain ⟨d, inside, rfl⟩ := List.mem_map.mp member
      split
      · exact node
      · exact made.anchors d inside

theorem Of.closeSequence (made : a.Of W) {p : Properties} (untagged : p.tag = none)
    {items : List Node} (members : ∀ n ∈ items, n.Of W) : Keeps W (a.closeSequence p items) := by
  have usual : p.collectionTag .sequence = .sequence := by
    rw [Properties.collectionTag, untagged]
  rw [Assembly.closeSequence, usual]
  exact made.closeWith p (.sequence fun n member => members n (List.mem_reverse.mp member))

theorem Of.closeMapping (made : a.Of W) {p : Properties} (untagged : p.tag = none)
    {entries : List (Node × Node)} (members : EntriesOf W entries) :
    Keeps W (a.closeMapping p entries) := by
  have usual : p.collectionTag .mapping = .mapping := by
    rw [Properties.collectionTag, untagged]
  rw [Assembly.closeMapping, usual]
  exact made.closeWith p (.mapping (fun e member => (members e (List.mem_reverse.mp member)).1)
    fun e member => (members e (List.mem_reverse.mp member)).2)

theorem Of.setTop (made : a.Of W) {o : OpenNode} (top : o.Of W) : Keeps W (a.setTop o) :=
  ⟨made.root, List.forall_mem_cons.mpr
    ⟨top, fun o member => made.openNodes o (List.mem_of_mem_drop member)⟩, made.pending,
    made.anchors⟩

theorem Of.pairStart (made : a.Of W) {p : Properties} (untagged : p.tag = none)
    {entries : List (Node × Node)} (members : EntriesOf W entries) (t : Token) :
    Keeps W (a.pairStart p entries t) := by
  unfold Assembly.pairStart
  split
  · exact made.setTop ⟨untagged, members, trivial⟩
  · exact made.closeMapping untagged members
  · rfl

theorem Of.blockPair (made : a.Of W) (t : Token) : Keeps W (a.blockPair t) := by
  unfold Assembly.blockPair
  cases opened : a.openNodes with
  | nil => rfl
  | cons o rest =>
      have top := made.openNodes o (opened ▸ List.mem_cons_self)
      cases o with
      | blockMapping p entries stage =>
          obtain ⟨untagged, members, waits⟩ := top
          cases stage with
          | start => exact made.pairStart untagged members t
          | colon k =>
              exact .ite (made.setTop ⟨untagged, members, waits⟩)
                (made.pairStart untagged (members.cons waits .missing) t)
          | _ => rfl
      | _ => rfl

theorem Of.sequenceComma (made : a.Of W) {p : Properties} (untagged : p.tag = none)
    {items : List Node} (members : ∀ n ∈ items, n.Of W) (t : Token) :
    Keeps W (a.sequenceComma p items t) := by
  unfold Assembly.sequenceComma
  split
  · exact made.setTop ⟨untagged, members, trivial⟩
  · exact made.closeSequence untagged members
  · rfl

theorem Of.mappingComma (made : a.Of W) {p : Properties} (untagged : p.tag = none)
    {entries : List (Node × Node)} (members : EntriesOf W entries) (t : Token) :
    Keeps W (a.mappingComma p entries t) := by
  unfold Assembly.mappingComma
  split
  · exact made.setTop ⟨untagged, members, trivial⟩
  · exact made.closeMapping untagged members
  · rfl

/-- Before a node begins, the state outside of collections holds none. -/
theorem Of.withRoot (made : a.Of W) {root : Root} (node : root.Of W) :
    Of W { a with root := root } :=
  ⟨node, made.openNodes, made.pending, made.anchors⟩

theorem Of.addDirective (made : a.Of W) (version : Bool) (handles : List (String × String))
    (d : Directive) : Keeps W (a.addDirective version handles d) := by
  cases d with
  | version major minor => exact .ite rfl (made.withRoot trivial)
  | handle name target => exact .ite rfl (made.withRoot trivial)
  | other => exact made.withRoot trivial

theorem Of.atRoot (made : a.Of W) (t : Token) : Keeps W (a.atRoot t) := by
  have node := made.root
  unfold Assembly.atRoot
  split
  · exact made.addDirective _ _ _
  · exact made.withRoot trivial
  · exact made.withRoot trivial
  · exact made.addDirective _ _ _
  · exact ⟨trivial, made.openNodes, made.pending, made.anchors⟩
  all_goals first | rfl | (rename_i same; rw [same] at node; exact made.withRoot node)

theorem Of.between (made : a.Of W) (t : Token) : Keeps W (a.between t) := by
  unfold Assembly.between
  cases opened : a.openNodes with
  | nil => exact made.atRoot t
  | cons o rest =>
      have top := made.openNodes o (opened ▸ List.mem_cons_self)
      cases o with
      | blockSequence p items stage =>
          cases stage with
          | item => rfl
          | dash =>
              cases t with
              | blockEntry => exact made.setTop top
              | blockEnd => exact made.closeSequence top.1 top.2
              | _ => rfl
      | flushSequence p items stage =>
          cases stage with
          | item => rfl
          | dash =>
              exact .ite (made.setTop top)
                ((made.closeSequence top.1 top.2).bind fun _ closed => closed.blockPair t)
      | blockMapping p entries stage => exact made.blockPair t
      | flowSequence p items stage =>
          obtain ⟨untagged, members, waits⟩ := top
          cases stage with
          | comma => exact made.sequenceComma untagged members t
          | colon k =>
              exact .ite (made.setTop ⟨untagged, members, waits⟩)
                (made.sequenceComma untagged
                  (List.forall_mem_cons.mpr ⟨.pair waits .missing, members⟩) t)
          | _ => rfl
      | flowMapping p entries stage =>
          obtain ⟨untagged, members, waits⟩ := top
          cases stage with
          | comma => exact made.mappingComma untagged members t
          | colon k =>
              exact .ite (made.setTop ⟨untagged, members, waits⟩)
                (made.mappingComma untagged (members.cons waits .missing) t)
          | _ => rfl

theorem Of.miss (made : a.Of W) (d : Due) (t : Token) : Keeps W (a.miss d t) := by
  unfold Assembly.miss
  refine .ite ((made.scalar fun _ => .inl rfl).bind fun _ given => given.between t) ?_
  split
  · rename_i opened
    obtain ⟨untagged, members, -⟩ := made.openNodes _ (opened ▸ List.mem_cons_self)
    exact made.setTop ⟨untagged, members, trivial⟩
  · rename_i opened
    obtain ⟨untagged, members, -⟩ := made.openNodes _ (opened ▸ List.mem_cons_self)
    exact made.closeSequence untagged members
  · rename_i opened
    obtain ⟨untagged, members, -⟩ := made.openNodes _ (opened ▸ List.mem_cons_self)
    exact made.setTop ⟨untagged, members, trivial⟩
  · rename_i opened
    obtain ⟨untagged, members, -⟩ := made.openNodes _ (opened ▸ List.mem_cons_self)
    exact made.closeMapping untagged members
  · rfl

/-- A token where a node is due, if it is no tag. -/
theorem Of.node (made : a.Of W) (d : Due) {t : Token} (untagged : t.Untagged P W) :
    Keeps W (a.node d t) := by
  unfold Assembly.node
  split
  · exact .ite rfl ⟨made.root, made.openNodes, made.pending, made.anchors⟩
  · exact untagged.elim
  · rename_i name
    refine .ite rfl ?_
    split
    · rename_i n found
      obtain ⟨before, after, same, -⟩ := List.lookup_eq_some_iff.mp found
      exact made.place (made.anchors (name, n) (by simp [same]))
    · rfl
  · rename_i text plain
    refine made.scalar fun bare => ?_
    subst bare
    exact .inr untagged
  · exact made.openSequence fun _ untagged => ⟨untagged, List.forall_mem_nil _, trivial⟩
  · exact made.openMapping fun _ untagged => ⟨untagged, List.forall_mem_nil _, trivial⟩
  · exact .ite (made.openSequence fun _ untagged => ⟨untagged, List.forall_mem_nil _⟩)
      (made.miss d _)
  · exact .ite (made.openMapping fun _ untagged => ⟨untagged, List.forall_mem_nil _, trivial⟩)
      (made.miss d _)
  · exact .ite (made.openSequence fun _ untagged => ⟨untagged, List.forall_mem_nil _⟩)
      (made.miss d _)
  · exact made.miss d _

/-- A step takes a token that is no tag to such a state, or fails with the fault that it tells, or
because the text does not follow the grammar. -/
theorem Of.take (malformed : P .malformed) (made : a.Of W) {t : Token}
    (untagged : t.Untagged P W) : Yields P (Of W) (a.take t) := by
  have keeps {x : Except Fault Assembly} (keeps : Keeps W x) : Yields P (Of W) x :=
    keeps.mono (fun _ same => same ▸ malformed) fun _ => id
  unfold Assembly.take
  dsimp only
  split
  · exact untagged
  · split
    all_goals first | refine keeps (Of.node ?_ _ untagged) | refine keeps (Of.between ?_ t)
    -- The state may only have changed in that the content of the document begins.
    all_goals
      split
      · split
        · exact made.withRoot trivial
        · exact made
      · exact made

end Assembly

namespace Outcome

/-- What fails does so with a fault that satisfies `P`, at whatever depth. -/
abbrev Faults {α : Type} (P : Fault → Prop) (o : Outcome α) : Prop :=
  Yields (fun e => P e.2) (fun _ => True) o

variable {α β : Type} {P : Fault → Prop}

theorem Faults.deeper {o : Outcome α} (faults : o.Faults P) : o.deeper.Faults P := by
  cases o with
  | ok a => trivial
  | error e => exact faults

theorem Faults.map {o : Outcome α} (faults : o.Faults P) (f : α → β) : Faults P (o.map f) := by
  cases o with
  | ok a => trivial
  | error e => exact faults

theorem Faults.both {o : Outcome α} {p : Outcome β} (left : o.Faults P) (right : p.Faults P) :
    Faults P (both o p) := by
  cases o with
  | ok a =>
      cases p with
      | ok b => trivial
      | error f => exact right
  | error e =>
      cases p with
      | ok b => exact left
      | error f =>
          simp only [Outcome.both]
          split
          · exact right
          · exact left

theorem Faults.all {row : List (Outcome α)} (faults : ∀ o ∈ row, o.Faults P) :
    Faults P (all row) := by
  induction row with
  | nil => trivial
  | cons o row ih =>
      obtain ⟨first, others⟩ := List.forall_mem_cons.mp faults
      exact (first.both (ih others)).map _

end Outcome

/-- A fault of a node in its place, or of the meaning of a plain scalar. -/
def ScalarFault (W : List Char → Prop) (f : Fault) : Prop :=
  f = .malformed ∨ ∃ text, W text ∧ Scalar.meaning (.ofPlain text) text = .error f

/-- The outcomes of the entries of a mapping, if there are any. -/
def Entries.Faults (P : Fault → Prop) (e : Option Entries) : Prop :=
  ∀ entries, e = some entries → ∀ o ∈ entries.taken ++ entries.own, Outcome.Faults P o

theorem Entries.Faults.outcome {P : Fault → Prop} {e : Option Entries} (faults : Entries.Faults P e)
    (malformed : P .malformed) (make : List (Value × Value) → Value) :
    Outcome.Faults P (Entries.outcome make e) := by
  cases e with
  | none => exact malformed
  | some entries => exact ((Outcome.Faults.all (faults entries rfl)).map make).deeper

/-- The entries that another mapping takes in. -/
theorem Entries.Faults.taken {P : Fault → Prop} {e : Option Entries} (faults : Entries.Faults P e)
    {os : List EntryOutcome} (given : (e.map fun e => e.taken ++ e.own) = some os) :
    ∀ o ∈ os, Outcome.Faults P o := by
  obtain ⟨entries, same, rfl⟩ := Option.map_eq_some_iff.mp given
  exact faults entries same

namespace Node

/-- A scalar is read under its own kind, or as a text. -/
theorem scalar_faults {own tag : Tag} {text : List Char} (made : (Node.scalar own text).Of W)
    (read : tag = own ∨ tag = .text) :
    Outcome.Faults (ScalarFault W) (outcomeAs (.scalar own text) tag) := by
  have asText : Outcome.Faults (ScalarFault W) (outcomeAs (.scalar own text) .text) := trivial
  rcases read with rfl | rfl
  · cases made with
    | text => exact asText
    | plain made =>
        simp only [outcomeAs, Node.single, Tag.isCollection_ofPlain, heldText]
        cases same : Scalar.meaning (.ofPlain text) text with
        | ok v => trivial
        | error f =>
            rcases made with rfl | made
            · cases same
            · exact .inr ⟨text, made, same⟩
  · exact asText

/-- A key that is no collection is a scalar. -/
theorem key_faults {k : Node} (key : k.Of W) (atom : k.tag.isCollection = false) :
    Outcome.Faults (ScalarFault W) (outcomeAs k k.tag.ofKey) := by
  cases k with
  | scalar own text =>
      refine scalar_faults key ?_
      unfold Tag.ofKey
      split
      · exact .inr rfl
      · exact .inl rfl
  | sequence own items =>
      cases key
      cases atom
  | mapping own entries =>
      cases key
      cases atom

mutual

theorem outcomeAs_faults : (n : Node) → n.Of W →
    Outcome.Faults (ScalarFault W) (outcomeAs n n.tag)
  | .scalar own text, made => scalar_faults made (.inl rfl)
  | .sequence own items, made => by
      cases made with
      | sequence members =>
          exact ((Outcome.Faults.all (itemOutcomes_faults items members)).map _).deeper
  | .mapping own entries, made => by
      cases made with
      | mapping keys values =>
          exact (entriesOf_faults entries keys values).outcome (.inl rfl) _

theorem itemOutcomes_faults : (items : List Node) → (∀ n ∈ items, n.Of W) →
    ∀ o ∈ itemOutcomes items, Outcome.Faults (ScalarFault W) o
  | [], _ => List.forall_mem_nil _
  | n :: items, members =>
      List.forall_mem_cons.mpr ⟨outcomeAs_faults n (members n List.mem_cons_self),
        itemOutcomes_faults items fun m member => members m (List.mem_cons_of_mem n member)⟩

theorem entriesOf_faults : (entries : List (Node × Node)) → (∀ e ∈ entries, e.1.Of W) →
    (∀ e ∈ entries, e.2.Of W) → Entries.Faults (ScalarFault W) (entriesOf entries)
  | [], _, _ => by
      rintro _ same
      cases same
      exact List.forall_mem_nil _
  | e :: entries, keys, values => by
      intro whole same
      obtain ⟨first, firstSame, rest⟩ := Option.bind_eq_some_iff.mp same
      obtain ⟨others, othersSame, same⟩ := Option.bind_eq_some_iff.mp rest
      cases same
      have here := entryOf_faults e (keys e List.mem_cons_self) (values e List.mem_cons_self)
        first firstSame
      have behind := entriesOf_faults entries
        (fun f member => keys f (List.mem_cons_of_mem e member))
        (fun f member => values f (List.mem_cons_of_mem e member)) others othersSame
      simp only [List.forall_mem_append] at here behind ⊢
      exact ⟨⟨here.1, behind.1⟩, here.2, behind.2⟩

theorem entryOf_faults : (e : Node × Node) → e.1.Of W → e.2.Of W →
    Entries.Faults (ScalarFault W) (entryOf e)
  | (k, v), key, value => by
      intro whole same
      unfold entryOf at same
      split at same
      · obtain ⟨os, taken, rfl⟩ := Option.map_eq_some_iff.mp same
        simpa using takenFrom_faults v value os taken
      · cases same
        refine List.forall_mem_singleton.mpr (Outcome.Faults.both ?_ (outcomeAs_faults v value))
        split
        · exact .inl rfl
        · rename_i atom
          exact key_faults key (by simpa using atom)

theorem takenFrom_faults : (n : Node) → n.Of W → ∀ os, takenFrom n = some os →
    ∀ o ∈ os, Outcome.Faults (ScalarFault W) o
  | .scalar .., _ => nofun
  | .sequence _ items, made => by
      cases made with
      | sequence members => exact takenFromItems_faults items members
  | .mapping _ entries, made => by
      cases made with
      | mapping keys values =>
          exact fun os same => (entriesOf_faults entries keys values).taken same

theorem takenFromItems_faults : (items : List Node) → (∀ n ∈ items, n.Of W) →
    ∀ os, takenFromItems items = some os → ∀ o ∈ os, Outcome.Faults (ScalarFault W) o
  | [], _ => by
      rintro _ same
      cases same
      exact List.forall_mem_nil _
  | n :: items, members => by
      intro os same
      obtain ⟨first, firstSame, rest⟩ := Option.bind_eq_some_iff.mp same
      obtain ⟨others, othersSame, same⟩ := Option.bind_eq_some_iff.mp rest
      cases same
      exact List.forall_mem_append.mpr
        ⟨takenFromItems_faults items (fun m member => members m (List.mem_cons_of_mem n member))
          others othersSame,
        takenFromItem_faults n (members n List.mem_cons_self) first firstSame⟩

theorem takenFromItem_faults : (n : Node) → n.Of W → ∀ os, takenFromItem n = some os →
    ∀ o ∈ os, Outcome.Faults (ScalarFault W) o
  | .scalar .., _ => nofun
  | .sequence .., _ => nofun
  | .mapping _ entries, made => by
      cases made with
      | mapping keys values =>
          exact fun os same => (entriesOf_faults entries keys values).taken same

end

end Node

end FileMode.Document
