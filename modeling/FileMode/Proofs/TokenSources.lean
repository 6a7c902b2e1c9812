import FileMode.Document.Tokens

/-!
Where the tokens of a text come from: a tag comes from an exclamation mark, a number that is no
character from an escape, which begins with a backslash, and a number that is too long from a
directive, which begins with a percent sign. All else that can be wrong with a text at this stage is
that it does not follow the grammar. A plain scalar ends before the gap behind it.

Each reader of a piece of the text has one lemma, each step of the reader of tokens has one, and the
tokens of the whole text follow by induction on it (`of_mem_tokens`).
-/

namespace FileMode

/-- What an operation results in satisfies `Q`, and what it fails with satisfies `P`. -/
def Yields {ε α : Type} (P : ε → Prop) (Q : α → Prop) : Except ε α → Prop
  | .ok a => Q a
  | .error e => P e

namespace Yields

variable {ε α β : Type} {P P' : ε → Prop} {Q Q' : α → Prop} {R : β → Prop} {x : Except ε α}

theorem mono (yields : Yields P Q x) (faults : ∀ e, P e → P' e) (results : ∀ a, Q a → Q' a) :
    Yields P' Q' x := by
  cases x with
  | ok a => exact results a yields
  | error e => exact faults e yields

theorem bind {f : α → Except ε β} (yields : Yields P Q x) (next : ∀ a, Q a → Yields P R (f a)) :
    Yields P R (x >>= f) := by
  cases x with
  | ok a => exact next a yields
  | error e => exact yields

theorem map (yields : Yields P (fun _ => True) x) (f : α → β) :
    Yields P (fun _ => True) (x.map f) := by
  cases x with
  | ok a => trivial
  | error e => exact yields

/-- The first branch may use the condition, under which it is taken. -/
theorem iteOf {y : Except ε α} {c : Prop} [Decidable c] (yes : c → Yields P Q x)
    (no : Yields P Q y) : Yields P Q (if c then x else y) := by
  by_cases holds : c
  · rw [if_pos holds]
    exact yes holds
  · rwa [if_neg holds]

theorem ite {y : Except ε α} {c : Prop} [Decidable c] (yes : Yields P Q x) (no : Yields P Q y) :
    Yields P Q (if c then x else y) :=
  iteOf (fun _ => yes) no

theorem mapM {f : α → Except ε β} (each : ∀ a, Yields P (fun _ => True) (f a)) (as : List α) :
    Yields P (fun _ => True) (as.mapM f) := by
  induction as with
  | nil => trivial
  | cons a as ih =>
      rw [List.mapM_cons]
      exact (each a).bind fun _ _ => ih.bind fun _ _ => trivial

theorem error (yields : Yields P Q x) {e : ε} (failed : x = .error e) : P e := by
  rw [failed] at yields
  exact yields

theorem ok (yields : Yields P Q x) {a : α} (done : x = .ok a) : Q a := by
  rw [done] at yields
  exact yields

end Yields

namespace Document

/-- An operation that fails, if it does, because a text does not follow the grammar. -/
abbrev Grammatical {α : Type} (x : Except Fault α) : Prop :=
  Yields (· = .malformed) (fun _ => True) x

theorem malformed {α : Type} : Grammatical (.error .malformed : Except Fault α) := rfl

theorem grammatical_anchorName (cs : List Char) : Grammatical (anchorName cs) :=
  .ite malformed trivial

theorem grammatical_settle (u : UriPart) : Grammatical u.settle := by
  unfold UriPart.settle
  split
  · trivial
  · rfl

theorem grammatical_uriText (u : UriPart) (skip : Nat) (cs : List Char) :
    Grammatical (uriText u skip cs) := by
  induction cs generalizing u skip with
  | nil =>
      rw [uriText]
      exact (grammatical_settle u).bind fun _ _ => trivial
  | cons c cs ih =>
      cases skip with
      | succ skip => exact ih u skip
      | zero =>
          rw [uriText]
          refine .ite ?_ (.ite ?_ ?_)
          · split
            · exact (ih _ 2).bind fun _ _ => trivial
            · exact malformed
          · exact (grammatical_settle u).bind fun _ _ => (ih _ 0).bind fun _ _ => trivial
          · exact (grammatical_settle u).bind fun _ _ => trivial

theorem grammatical_uri (cs : List Char) : Grammatical (uri cs) :=
  (grammatical_uriText _ _ _).bind fun _ _ => .ite malformed trivial

theorem grammatical_handle (cs : List Char) : Grammatical (handle cs) := by
  unfold handle
  split
  · exact .ite trivial (.ite trivial malformed)
  · exact malformed

theorem grammatical_tag (cs : List Char) : Grammatical (tag cs) := by
  have ended (t : TagText) (n : Nat) : Grammatical
      (if wordEnds (cs.drop n) then (pure (t, n) : Except Fault (TagText × Nat))
        else throw .malformed) := .ite trivial malformed
  unfold tag
  refine .ite ?_ (.ite (ended _ _) (.ite ?_ ?_))
  · exact (grammatical_uri _).bind fun _ _ => .ite (ended _ _) malformed
  · exact (grammatical_handle _).bind fun _ _ => (grammatical_uri _).bind fun _ _ => ended _ _
  · exact (grammatical_uri _).bind fun _ _ => ended _ _

theorem grammatical_handleTarget (cs : List Char) : Grammatical (handleTarget cs) :=
  (grammatical_handle _).bind fun _ _ =>
    .ite malformed ((grammatical_uri _).bind fun _ _ => .ite malformed trivial)

theorem grammatical_indicators (cs : List Char) : Grammatical (Block.indicators cs) := by
  unfold Block.indicators
  split
  · trivial
  · split
    · split
      · exact malformed
      · trivial
      · trivial
    · exact malformed
    · split
      · trivial
      · trivial
    · trivial

theorem grammatical_header (cs : List Char) : Grammatical (Block.header cs) := by
  refine (grammatical_indicators _).bind fun h _ => .ite malformed ?_
  split
  · trivial
  · exact malformed

theorem grammatical_blockRead (style : Block.Style) (parent : Nat) (cs : List Char) :
    Grammatical (Block.read style parent cs) :=
  (grammatical_header _).bind fun _ _ => trivial

/-! ### Directives -/

/-- A fault of a text of some characters: it does not follow the grammar, an escape in it names no
character, or a number of a directive has too many digits. -/
inductive Fault.Of (V : Char → Prop) : Fault → Prop where
  | malformed : Of V .malformed
  | codePoint (n : Nat) (escape : V '\x5c') : Of V (.codePoint n)
  | surrogate (n : Nat) (escape : V '\x5c') : Of V (.surrogate n)
  | integerSize {digits : Nat} (directive : V '%') (long : Literal.maxDigits < digits) :
      Of V (.integerSize digits)

variable {V : Char → Prop}

theorem Grammatical.of {α : Type} {x : Except Fault α} (grammatical : Grammatical x) :
    Yields (Fault.Of V) (fun _ => True) x :=
  grammatical.mono (fun _ same => same ▸ .malformed) fun _ _ => trivial

theorem yields_number (mark : V '%') (cs : List Char) :
    Yields (Fault.Of V) (fun _ => True) (number cs) := by
  unfold number
  split
  · rename_i d ds _
    by_cases long : Literal.maxDigits < ds.length + 1
    · simp only [if_pos long]
      exact .integerSize mark long
    · simp only [if_neg long]
      trivial
  · exact .malformed

theorem yields_version (mark : V '%') (cs : List Char) :
    Yields (Fault.Of V) (fun _ => True) (version cs) :=
  (yields_number mark _).bind fun _ _ => .ite .malformed
    ((yields_number mark _).bind fun _ _ => .ite .malformed trivial)

theorem yields_directive (mark : V '%') (cs : List Char) :
    Yields (Fault.Of V) (fun _ => True) (directive cs) := by
  have other (n : Nat) : Grammatical (pure (Directive.other, n)) := trivial
  unfold directive
  refine .ite .malformed (.ite ((yields_version mark _).bind fun _ _ => ?_)
    (.ite ((grammatical_handleTarget _).of.bind fun _ _ => ?_)
      ((other _).of.bind fun _ _ => ?_)))
  -- The rest of the line is read alike behind each kind of directive.
  all_goals
    dsimp only
    split
    · trivial
    · exact .malformed

/-! ### Scalars -/

theorem grammatical_blankLines (cs : List Char) : Grammatical (Flow.blankLines cs) :=
  .ite malformed trivial

theorem grammatical_gap (cs : List Char) : Grammatical (Flow.gap cs) := by
  unfold Flow.gap
  dsimp only
  split
  · trivial
  · exact (grammatical_blankLines _).bind fun _ _ => trivial

theorem yields_escape (escape : V '\x5c') (cs : List Char) :
    Yields (Fault.Of V) (fun _ => True) (Flow.escape cs) := by
  unfold Flow.escape
  split
  · exact .malformed
  · split
    · trivial
    · split
      · split
        · exact .malformed
        · exact .ite trivial (.ite (.surrogate _ escape) (.codePoint _ escape))
      · split
        · exact .malformed
        · exact (grammatical_blankLines _).of.bind fun _ _ => trivial

theorem yields_flowRead (style : Flow.Style) (skip : Nat) {cs : List Char} (made : ∀ c ∈ cs, V c) :
    Yields (Fault.Of V) (fun _ => True) (Flow.read style skip cs) := by
  induction cs generalizing skip with
  | nil =>
      unfold Flow.read
      exact .malformed
  | cons c cs ih =>
      obtain ⟨first, others⟩ := List.forall_mem_cons.mp made
      cases skip with
      | succ skip => exact ih skip others
      | zero =>
          rw [Flow.read]
          refine .ite (.ite ((ih _ others).bind fun _ _ => trivial) trivial) ?_
          refine .iteOf (fun escaped => ?_) (.ite ?_ ?_)
          · simp only [Bool.and_eq_true, decide_eq_true_eq] at escaped
            exact (yields_escape (escaped.2 ▸ first) cs).bind fun _ _ =>
              (ih _ others).bind fun _ _ => trivial
          · exact (grammatical_gap _).of.bind fun _ _ => (ih _ others).bind fun _ _ => trivial
          · exact (ih _ others).bind fun _ _ => trivial

def Trimmed (text : List Char) : Prop := ∀ c, text.getLast? = some c → isGap c = false

theorem Trimmed.nil : Trimmed [] := nofun

theorem Trimmed.cons {c : Char} {text : List Char} (noGap : isGap c = false)
    (rest : Trimmed text) : Trimmed (c :: text) := by
  intro d same
  cases text with
  | nil =>
      cases same
      exact noGap
  | cons e text => exact rest d (by rwa [List.getLast?_cons_cons] at same)

theorem Trimmed.append {text : List Char} (rest : Trimmed text) (present : text ≠ [])
    (front : List Char) : Trimmed (front ++ text) := by
  intro d same
  rw [List.getLast?_append] at same
  cases ends : text.getLast? with
  | none => exact absurd (List.getLast?_eq_none_iff.mp ends) present
  | some e =>
      rw [ends] at same
      exact rest d (ends.trans same)

/-- A plain scalar takes in a gap only if it goes on behind it. -/
theorem trimmed_read (flow : Bool) (indent skip : Nat) (fresh : Bool) (cs : List Char) :
    Trimmed (Plain.read flow indent skip fresh cs).text := by
  induction cs generalizing skip fresh with
  | nil => exact .nil
  | cons c cs ih =>
      cases skip with
      | succ skip => exact ih skip fresh
      | zero =>
          rw [Plain.read]
          split
          · exact .nil
          · split
            · split
              · exact .nil
              · dsimp only
                split
                · split
                  · exact .nil
                  · rename_i present
                    exact (ih _ true).append (by simpa using present) _
                · exact .nil
            · rename_i goesOn
              simp only [Plain.endsRun, Bool.or_eq_true, not_or, Bool.not_eq_true] at goesOn
              exact (ih 0 false).cons goesOn.1.1

/-! ### Tokens -/

/-- A token of a text of some characters: what a tag begins with is among them, a plain scalar ends
without a gap, and a fault is one of such a text. -/
def Token.Of (V : Char → Prop) : Token → Prop
  | .tag _ => V '!'
  | .scalar text true => Trimmed text.toList
  | .fault f => f.Of V
  | _ => True

namespace Reader

/-- A state in which all tokens are those of a text of some characters. -/
def Of (V : Char → Prop) (r : Reader) : Prop := ∀ t ∈ r.tokens, t.Of V

variable {r : Reader}

theorem Of.push {t : Token} (sources : r.Of V) (token : t.Of V) : (r.push t).Of V :=
  List.forall_mem_cons.mpr ⟨token, sources⟩

theorem Of.pass (sources : r.Of V) (c : Char) (cs : List Char) : (r.pass c cs).Of V := sources

theorem Of.setCandidate (sources : r.Of V) (k : Option Candidate) : (r.setCandidate k).Of V := by
  unfold Reader.setCandidate
  split <;> exact sources

theorem Of.closeBlocks (sources : r.Of V) (keep : Nat → Bool) : (r.closeBlocks keep).Of V := by
  unfold Reader.closeBlocks
  split
  · exact sources
  · intro t member
    rcases List.mem_append.mp member with closed | earlier
    · exact List.eq_of_mem_replicate closed ▸ trivial
    · exact sources t earlier

theorem Of.openBlock (sources : r.Of V) {t : Token} (token : t.Of V) : (r.openBlock t).Of V := by
  unfold Reader.openBlock
  split
  · exact List.forall_mem_cons.mpr ⟨token, sources⟩
  · exact sources

/-- The result of a step is a state of the same text, and its fault one of grammar. -/
abbrev Keeps (V : Char → Prop) (x : Except Fault Reader) : Prop := Yields (· = .malformed) (Of V) x

/-- The same of a step that also tells how far it reaches. -/
abbrev Steps (V : Char → Prop) (x : Except Fault (Reader × Nat)) : Prop :=
  Yields (Fault.Of V) (fun p => p.1.Of V) x

theorem Of.dropCandidate (sources : r.Of V) : Yields (Fault.Of V) (Of V) r.dropCandidate :=
  .ite .malformed (sources.setCandidate none)

theorem Of.noteCandidate (sources : r.Of V) : Yields (Fault.Of V) (Of V) r.noteCandidate :=
  .ite (sources.dropCandidate.bind fun _ dropped => dropped.setCandidate _) sources

theorem Of.dropStale (sources : r.Of V) : Yields (Fault.Of V) (Of V) r.dropStale :=
  .ite .malformed sources

theorem Of.documentMarker (sources : r.Of V) {t : Token} (token : t.Of V) :
    Steps V (r.documentMarker t) :=
  (sources.closeBlocks _).dropCandidate.bind fun _ dropped => Of.push dropped token

theorem Of.directiveLine (sources : r.Of V) (mark : V '%') (cs : List Char) :
    Steps V (r.directiveLine cs) :=
  (sources.closeBlocks _).dropCandidate.bind fun _ dropped =>
    (yields_directive mark cs).bind fun _ _ => Of.push dropped trivial

theorem Of.flowStart (sources : r.Of V) {t : Token} (token : t.Of V) : Steps V (r.flowStart t) :=
  sources.noteCandidate.bind fun _ noted => Of.push noted token

theorem Of.flowEnd (sources : r.Of V) {t : Token} (token : t.Of V) : Steps V (r.flowEnd t) :=
  .ite .malformed (sources.dropCandidate.bind fun _ dropped => Of.push dropped token)

theorem Of.flowSeparator (sources : r.Of V) : Steps V r.flowSeparator :=
  sources.dropCandidate.bind fun _ dropped => Of.push dropped trivial

/-- A block collection may open before a mark, outside flow collections. -/
theorem Of.mark (sources : r.Of V) (t : Token) (token : t.Of V) :
    Of V (if r.inFlow then r else r.openBlock t) := by
  split
  · exact sources
  · exact sources.openBlock token

theorem Of.entryDash (sources : r.Of V) : Steps V r.entryDash :=
  .ite .malformed ((sources.mark .blockSequence trivial).dropCandidate.bind fun _ dropped =>
    Of.push dropped trivial)

theorem Of.keyMark (sources : r.Of V) : Steps V r.keyMark :=
  .ite .malformed ((sources.mark .blockMapping trivial).dropCandidate.bind fun _ dropped =>
    Of.push dropped trivial)

theorem Of.markKey (sources : r.Of V) (k : Candidate) : (r.markKey k).Of V := by
  intro t member
  have marks : ∀ opens : Bool,
      ∀ t ∈ if opens then [Token.key, Token.blockMapping] else [Token.key], t.Of V := by
    intro opens
    cases opens <;> simp [Token.Of]
  simp only [Reader.markKey, List.splitAt_eq, List.mem_append] at member
  rcases member with (later | mark) | earlier
  · exact sources t (List.mem_of_mem_take later)
  · exact marks _ t mark
  · exact sources t (List.mem_of_mem_drop earlier)

theorem Of.valueColon (sources : r.Of V) : Steps V r.valueColon := by
  unfold Reader.valueColon
  split
  · exact Of.push ((sources.setCandidate none).markKey _) trivial
  · exact .ite .malformed ((sources.mark .blockMapping trivial).dropCandidate.bind fun _ dropped =>
      Of.push dropped trivial)

theorem Of.anchorMark (sources : r.Of V) (make : String → Token)
    (token : ∀ name, (make name).Of V) (cs : List Char) : Steps V (r.anchorMark make cs) :=
  sources.noteCandidate.bind fun _ noted =>
    (grammatical_anchorName cs).of.bind fun p _ => Of.push noted (token p.1)

theorem Of.tagMark (sources : r.Of V) (mark : V '!') (cs : List Char) : Steps V (r.tagMark cs) :=
  sources.noteCandidate.bind fun _ noted =>
    (grammatical_tag cs).of.bind fun _ _ => Of.push noted mark

theorem Of.blockScalar (sources : r.Of V) (style : Block.Style) (cs : List Char) :
    Steps V (r.blockScalar style cs) :=
  sources.dropCandidate.bind fun _ dropped =>
    (grammatical_blockRead style _ cs).of.bind fun _ _ => Of.push dropped trivial

theorem Of.flowScalar (sources : r.Of V) (style : Flow.Style) {cs : List Char}
    (made : ∀ c ∈ cs, V c) : Steps V (r.flowScalar style cs) :=
  sources.noteCandidate.bind fun _ noted =>
    (yields_flowRead style 0 made).bind fun _ _ => Of.push noted trivial

theorem Of.plainScalar (sources : r.Of V) (cs : List Char) : Steps V (r.plainScalar cs) :=
  sources.noteCandidate.bind fun r noted => by
    have trimmed := trimmed_read r.inFlow r.scalarIndent 0 false cs
    rw [← String.toList_ofList (l := (Plain.read r.inFlow r.scalarIndent 0 false cs).text)]
      at trimmed
    exact Of.push noted trimmed

theorem Of.dispatch (sources : r.Of V) {c : Char} {cs : List Char} (made : ∀ d ∈ c :: cs, V d) :
    Steps V (r.dispatch c cs) := by
  obtain ⟨first, others⟩ := List.forall_mem_cons.mp made
  unfold Reader.dispatch
  refine .iteOf (fun mark => ?_) (.ite (sources.documentMarker trivial)
    (.ite (sources.documentMarker trivial) (.ite (sources.flowStart trivial)
    (.ite (sources.flowStart trivial) (.ite (sources.flowEnd trivial)
    (.ite (sources.flowEnd trivial) (.ite sources.flowSeparator (.ite sources.entryDash
    (.ite sources.keyMark (.ite sources.valueColon
    (.ite (sources.anchorMark .alias (fun _ => trivial) cs)
    (.ite (sources.anchorMark .anchor (fun _ => trivial) cs)
    (.iteOf (fun mark => sources.tagMark (mark ▸ first) cs)
    (.ite (sources.blockScalar _ cs) (.ite (sources.blockScalar _ cs)
    (.ite (sources.flowScalar _ others) (.ite (sources.flowScalar _ others)
    (.ite (sources.plainScalar (c :: cs)) .malformed))))))))))))))))))
  simp only [Bool.and_eq_true, decide_eq_true_eq] at mark
  exact sources.directiveLine (mark.1 ▸ first) cs

theorem Of.token (sources : r.Of V) {c : Char} {cs : List Char} (made : ∀ d ∈ c :: cs, V d) :
    Steps V (r.token c cs) :=
  sources.dropStale.bind fun _ kept => (kept.closeBlocks _).dispatch made

theorem Of.finish (sources : r.Of V) : Yields (Fault.Of V) (Of V) r.finish :=
  sources.dropStale.bind fun _ kept => (kept.closeBlocks _).dropCandidate.bind fun _ dropped =>
    Of.push dropped trivial

theorem Of.result (sources : r.Of V) {f : Option Fault} (fault : ∀ g, f = some g → g.Of V) :
    ∀ t ∈ r.result f, t.Of V := by
  unfold Reader.result
  split
  · exact fun t member => sources t (List.mem_reverse.mp member)
  · rename_i g
    refine List.forall_mem_append.mpr ⟨fun t member => ?_, ?_⟩
    · exact sources t (List.mem_reverse.mp (List.mem_of_mem_take member))
    · exact List.forall_mem_singleton.mpr (fault g rfl)

/-- A step of a reader for each token, and so the whole run, keeps to the characters of the text. -/
theorem Of.read (sources : r.Of V) (skip : Nat) {cs : List Char} (made : ∀ c ∈ cs, V c) :
    ∀ t ∈ r.read skip cs, t.Of V := by
  induction cs generalizing r skip with
  | nil =>
      rw [Reader.read]
      have finished := sources.finish
      cases same : r.finish with
      | ok next => exact Of.result (finished.ok same) nofun
      | error f =>
          refine sources.result fun g found => ?_
          exact Option.some.inj found ▸ finished.error same
  | cons c cs ih =>
      obtain ⟨first, others⟩ := List.forall_mem_cons.mp made
      cases skip with
      | succ skip => exact ih (sources.pass c cs) skip others
      | zero =>
          rw [Reader.read]
          split
          · exact ih (sources.pass c cs) 0 others
          · split
            · exact ih (sources.pass c cs) _ others
            · split
              · have allowed : (r.allowKey (r.keyAllowed || !r.inFlow)).Of V := sources
                exact ih (allowed.pass c cs) _ others
              · have taken := sources.token made
                cases same : r.token c cs with
                | ok p => exact ih ((taken.ok same).pass c cs) _ others
                | error f =>
                    refine sources.result fun g found => ?_
                    exact Option.some.inj found ▸ taken.error same

end Reader

end Document

end FileMode
