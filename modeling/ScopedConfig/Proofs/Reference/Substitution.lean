import Mathlib.Data.List.Basic
import ScopedConfig.Lists
import ScopedConfig.Proofs.Reference.Occurrence

/-! # What replaces references

A text is gaps with the located references between them (`Segments`).  The references are
replaced from left to right: whatever a resolver does with a state of its own, it is
called as if one asked it for each reference in turn (`Resolver.Answers`), up to the
first that it has no answer for (`Resolver.Fails`).  What it answers is put between the
gaps and is not read again, so the gaps stay what they were (`substitute_segments`).
-/
namespace ScopedConfig
namespace Reference

/-- **A text as gaps and references**: what is before the first reference, and each
reference with what follows it up to the next. -/
structure Segments where
  first : Text
  rest : List (Reference × Text)

namespace Segments

/-- The text that is put together. -/
def text (segments : Segments) : Text :=
  segments.first ++ segments.rest.flatMap fun part => part.1.token ++ part.2

/-- The references, in order. -/
def references (segments : Segments) : List Reference := segments.rest.map Prod.fst

/-- Where references stand that have gaps behind them, from an offset on. -/
def locateFrom (offset : Nat) : List (Reference × Text) → List Located
  | [] => []
  | (r, gap) :: rest =>
    let stop := offset + Text.byteSize r.token
    ⟨offset, stop, r⟩ :: locateFrom (stop + Text.byteSize gap) rest

/-- Where the references stand. -/
def located (segments : Segments) : List Located :=
  locateFrom (Text.byteSize segments.first) segments.rest

/-- The text with a value in the place of each reference. -/
def filled (segments : Segments) (values : List Text) : Text :=
  segments.first ++ (List.zipWith (fun value part => value ++ part.2) values segments.rest).flatten

/-- The gaps and references of pieces. -/
def ofPieces : List Piece → Segments
  | [] => ⟨[], []⟩
  | .char c :: pieces => ⟨c :: (ofPieces pieces).first, (ofPieces pieces).rest⟩
  | .reference r :: pieces => ⟨[], (r, (ofPieces pieces).first) :: (ofPieces pieces).rest⟩

theorem text_ofPieces (pieces : List Piece) :
    (ofPieces pieces).text = pieces.flatMap Piece.text := by
  induction pieces with
  | nil => rfl
  | cons piece pieces ih =>
    rw [List.flatMap_cons, ← ih]
    cases piece with
    | char c => rfl
    | reference r => simp [ofPieces, text, Piece.text]

theorem references_ofPieces (pieces : List Piece) :
    (ofPieces pieces).references = pieces.filterMap Piece.reference? := by
  induction pieces with
  | nil => rfl
  | cons piece pieces ih =>
    cases piece with
    | char c => exact ih
    | reference r => exact congrArg (List.cons r) ih

theorem locateFrom_ofPieces (offset : Nat) (pieces : List Piece) :
    locateFrom (offset + Text.byteSize (ofPieces pieces).first) (ofPieces pieces).rest =
      locate offset pieces := by
  induction pieces generalizing offset with
  | nil => rfl
  | cons piece pieces ih =>
    cases piece with
    | char c =>
      rw [ofPieces, Text.byteSize, ← Nat.add_assoc, ih]
      rfl
    | reference r =>
      rw [locate, ← ih]
      rfl

/-- The segments of a text. -/
def ofText (text : Text) : Segments := ofPieces (Piece.scan text)

theorem text_ofText (text : Text) : (ofText text).text = text :=
  (text_ofPieces _).trans (Piece.reads_scanFrom none text).flatMap_text

theorem references_ofText (text : Text) : (ofText text).references = all text :=
  references_ofPieces _

theorem located_ofText (text : Text) : (ofText text).located = Reference.located text := by
  rw [located, ← Nat.zero_add (Text.byteSize _)]
  exact locateFrom_ofPieces 0 _

/-- Every reference in its own place makes the text. -/
theorem filled_tokens (segments : Segments) :
    segments.filled (segments.references.map token) = segments.text := by
  rw [filled, text, references, List.map_map, List.zipWith_map_left, List.zipWith_self,
    ← List.flatMap_def]
  rfl

end Segments

/-! ## Any resolver -/

section Monadic

variable {m : Type → Type} [Monad m] [LawfulMonad m]

/-- What a piece is replaced by. -/
def replacement (resolve : Reference → m Text) : Piece → m Text
  | .char c => pure [c]
  | .reference r => resolve r

/-- The replacements of pieces are values between gaps. -/
theorem flatten_mapM_replacement (resolve : Reference → m Text) (pieces : List Piece) :
    List.flatten <$> pieces.mapM (replacement resolve) =
      (Segments.ofPieces pieces).filled <$> (Segments.ofPieces pieces).references.mapM resolve := by
  induction pieces with
  | nil => simp [Segments.ofPieces, Segments.references, Segments.filled]
  | cons piece pieces ih =>
    rw [Lists.flatten_mapM_cons, ih]
    cases piece with
    | char c =>
      rw [replacement, pure_bind, ← comp_map]
      rfl
    | reference r =>
      have hfilled : ∀ value values,
          (Segments.ofPieces (.reference r :: pieces)).filled (value :: values) =
            value ++ (Segments.ofPieces pieces).filled values := by
        intro value values
        simp [Segments.ofPieces, Segments.filled]
      show (resolve r >>= _) =
        (Segments.ofPieces (.reference r :: pieces)).filled <$>
          (r :: (Segments.ofPieces pieces).references).mapM resolve
      simp only [List.mapM_cons, hfilled, map_eq_pure_bind, bind_assoc, pure_bind]

/-- **Values are put between the gaps of a text**, one for each reference. -/
theorem substitute_eq_map (resolve : Reference → m Text) (text : Text) :
    substitute resolve text = (Segments.ofText text).filled <$> (all text).mapM resolve := by
  have hpieces : substitute resolve text =
      List.flatten <$> (Piece.scan text).mapM (replacement resolve) := by
    rw [map_eq_pure_bind]
    rfl
  rw [hpieces, flatten_mapM_replacement, ← Segments.references_ofText]
  rfl

end Monadic

/-! ## Resolvers with a state -/

/-- **What answers references**: with a text or an error, and a state that it may read and
change. -/
abbrev Resolver (σ ε : Type) := Reference → ExceptT ε (StateM σ) Text

/-- A computation run from a state. -/
def runFrom {σ ε α : Type} (x : ExceptT ε (StateM σ) α) (s : σ) : Except ε α × σ := x.run.run s

namespace Resolver

variable {σ ε : Type} {f : Resolver σ ε} {s s' reached : σ} {references called : List Reference}
  {values : List Text} {e : ε}

/-- The answer to one reference. -/
def call (f : Resolver σ ε) (r : Reference) (s : σ) : Except ε Text × σ := runFrom (f r) s

/-- The text with its references replaced by the answers. -/
def substituted (f : Resolver σ ε) (text : Text) (s : σ) : Except ε Text × σ :=
  runFrom (substitute f text) s

/-- The resolver that also notes which references it is called for. -/
def noting (f : Resolver σ ε) : Resolver (σ × List Reference) ε :=
  fun r state => ((f.call r state.1).1, (f.call r state.1).2, state.2 ++ [r])

/-- **References are answered one after another**: the resolver is called for each, from the
state that the one before it has left, and has a value for each. -/
inductive Answers (f : Resolver σ ε) : σ → List Reference → List Text → σ → Prop
  | nil (s : σ) : Answers f s [] [] s
  | cons {s reached s' : σ} {r : Reference} {value : Text} {references : List Reference}
      {values : List Text} (h : f.call r s = (.ok value, reached))
      (rest : Answers f reached references values s') :
      Answers f s (r :: references) (value :: values) s'

/-- **The first failure**: some references are answered one after another, and the resolver
fails for the next.  It has been called for these, and for no other. -/
def Fails (f : Resolver σ ε) (s : σ) (references called : List Reference) (e : ε) (s' : σ) :
    Prop :=
  ∃ done r rest values reached, references = done ++ r :: rest ∧ called = done ++ [r] ∧
    f.Answers s done values reached ∧ f.call r reached = (.error e, s')

/-! What comes of several calls. -/

theorem runFrom_bind {α β : Type} (x : ExceptT ε (StateM σ) α)
    (next : α → ExceptT ε (StateM σ) β) (s : σ) :
    runFrom (x >>= next) s =
      match runFrom x s with
      | (.ok value, reached) => runFrom (next value) reached
      | (.error e, reached) => (.error e, reached) := by
  unfold runFrom
  rw [ExceptT.run_bind, StateT.run_bind]
  rcases x.run.run s with ⟨_ | _, reached⟩ <;> rfl

theorem runFrom_map {α β : Type} (g : α → β) (x : ExceptT ε (StateM σ) α) (s : σ) :
    runFrom (g <$> x) s = ((runFrom x s).1.map g, (runFrom x s).2) := by
  rw [map_eq_pure_bind, runFrom_bind]
  rcases runFrom x s with ⟨_ | _, reached⟩ <;> rfl

theorem runFrom_mapM_cons {r : Reference} :
    runFrom ((r :: references).mapM f) s =
      match f.call r s with
      | (.ok value, reached) =>
        ((runFrom (references.mapM f) reached).1.map (value :: ·),
          (runFrom (references.mapM f) reached).2)
      | (.error e, reached) => (.error e, reached) := by
  rw [List.mapM_cons, runFrom_bind]
  unfold call
  rcases runFrom (f r) s with ⟨_ | value, reached⟩
  · rfl
  · exact runFrom_map (value :: ·) (references.mapM f) reached

theorem Answers.runFrom_mapM (h : f.Answers s references values s') :
    runFrom (references.mapM f) s = (.ok values, s') := by
  induction h with
  | nil => rfl
  | cons h _ ih =>
    rw [runFrom_mapM_cons, h]
    dsimp only
    rw [ih]
    rfl

theorem Fails.runFrom_mapM (h : f.Fails s references called e s') :
    runFrom (references.mapM f) s = (.error e, s') := by
  obtain ⟨done, r, rest, values, reached, rfl, -, hdone, hr⟩ := h
  induction hdone with
  | nil =>
    rw [List.nil_append, runFrom_mapM_cons, hr]
  | cons h _ ih =>
    rw [List.cons_append, runFrom_mapM_cons, h]
    dsimp only
    rw [ih hr]
    rfl

/-- Either all references are answered, or one is the first that is not. -/
theorem answers_or_fails (f : Resolver σ ε) (s : σ) (references : List Reference) :
    (∃ values s', f.Answers s references values s') ∨
      ∃ called e s', f.Fails s references called e s' := by
  induction references generalizing s with
  | nil => exact .inl ⟨[], s, .nil s⟩
  | cons r references ih =>
    rcases hr : f.call r s with ⟨e | value, reached⟩
    · exact .inr ⟨[r], e, reached, [], r, references, [], s, rfl, rfl, .nil s, hr⟩
    · rcases ih reached with ⟨values, s', h⟩ | ⟨called, e, s', h⟩
      · exact .inl ⟨_, _, .cons hr h⟩
      · obtain ⟨done, q, rest, values, last, rfl, rfl, hdone, hq⟩ := h
        exact .inr ⟨_, _, _, r :: done, q, rest, _, last, rfl, rfl, .cons hr hdone, hq⟩

theorem call_noting (f : Resolver σ ε) (r : Reference) (s : σ) (noted : List Reference) :
    f.noting.call r (s, noted) = ((f.call r s).1, (f.call r s).2, noted ++ [r]) := rfl

/-- Noting the calls changes no answer. -/
theorem Answers.noting (h : f.Answers s references values s') (noted : List Reference) :
    f.noting.Answers (s, noted) references values (s', noted ++ references) := by
  induction h generalizing noted with
  | nil s =>
    rw [List.append_nil]
    exact .nil _
  | @cons s reached s' r value references values h _ ih =>
    have hrest := ih (noted ++ [r])
    rw [List.append_assoc, List.singleton_append] at hrest
    exact .cons (by rw [call_noting, h]) hrest

theorem Fails.noting (h : f.Fails s references called e s') (noted : List Reference) :
    f.noting.Fails (s, noted) references called e (s', noted ++ called) := by
  obtain ⟨done, r, rest, values, reached, rfl, rfl, hdone, hr⟩ := h
  refine ⟨done, r, rest, values, _, rfl, rfl, hdone.noting noted, ?_⟩
  rw [call_noting, hr, List.append_assoc]

theorem substituted_eq (f : Resolver σ ε) (text : Text) (s : σ) :
    f.substituted text s =
      ((runFrom ((all text).mapM f) s).1.map (Segments.ofText text).filled,
        (runFrom ((all text).mapM f) s).2) := by
  rw [substituted, substitute_eq_map]
  exact runFrom_map ..

/-- Answers that are the tokens themselves are all tokens. -/
theorem Answers.eq_tokens (h : f.Answers s references values s')
    (hself : ∀ r s, (f.call r s).1 = .ok r.token) : values = references.map token := by
  induction h with
  | nil => rfl
  | @cons s reached s' r value references values h _ ih =>
    have htoken := hself r s
    rw [h] at htoken
    rw [List.map_cons, Except.ok.inj htoken, ih]

end Resolver

/-- **Replacing references goes through a text once and loses nothing of it.**  The text is
gaps with the located references between them.  For any resolver, whatever state it
keeps: either it answers all references in order, and the result is the gaps with the
answers between them; or it fails for one, and the result is this error, the references
behind it never asked for.  The calls are noted to be just these.  A resolver that
answers with the tokens gives the text back, and a text without references is given
back without a call. -/
theorem substitute_segments (text : Text) :
    ∃ segments : Segments, segments.text = text ∧ segments.located = located text ∧
      (∀ (σ ε : Type) (f : Resolver σ ε) (s : σ),
        (∃ values s', f.Answers s segments.references values s' ∧
          f.substituted text s = (.ok (segments.filled values), s') ∧
          f.noting.substituted text (s, []) =
            (.ok (segments.filled values), s', segments.references)) ∨
        (∃ called e s', f.Fails s segments.references called e s' ∧
          f.substituted text s = (.error e, s') ∧
          f.noting.substituted text (s, []) = (.error e, s', called))) ∧
      (∀ (σ ε : Type) (f : Resolver σ ε), (∀ r s, (f.call r s).1 = .ok r.token) →
        ∀ s, (f.substituted text s).1 = .ok text) ∧
      (occursIn text = false →
        ∀ (σ ε : Type) (f : Resolver σ ε) (s : σ), f.substituted text s = (.ok text, s)) := by
  have hreferences := Segments.references_ofText text
  refine ⟨.ofText text, Segments.text_ofText text, Segments.located_ofText text, ?_, ?_, ?_⟩
  · intro σ ε f s
    rw [hreferences]
    rcases f.answers_or_fails s (all text) with ⟨values, s', h⟩ | ⟨called, e, s', h⟩
    · refine .inl ⟨values, s', h, ?_, ?_⟩
      · rw [Resolver.substituted_eq, h.runFrom_mapM]
        rfl
      · rw [Resolver.substituted_eq, (h.noting []).runFrom_mapM]
        rfl
    · refine .inr ⟨called, e, s', h, ?_, ?_⟩
      · rw [Resolver.substituted_eq, h.runFrom_mapM]
        rfl
      · rw [Resolver.substituted_eq, (h.noting []).runFrom_mapM]
        rfl
  · intro σ ε f hself s
    rcases f.answers_or_fails s (all text) with ⟨values, s', h⟩ | ⟨called, e, s', h⟩
    · rw [Resolver.substituted_eq, h.runFrom_mapM, h.eq_tokens hself, ← hreferences]
      show Except.ok ((Segments.ofText text).filled _) = _
      rw [Segments.filled_tokens, Segments.text_ofText]
    · obtain ⟨done, r, rest, values, reached, -, -, -, hr⟩ := h
      have htoken := hself r reached
      rw [hr] at htoken
      cases htoken
  · intro hnone σ ε f s
    have hall : all text = [] := by simpa [occursIn] using hnone
    have hrest : (Segments.ofText text).rest = [] := by
      simpa [Segments.references, hall] using hreferences
    have htext : (Segments.ofText text).first = text := by
      simpa [Segments.text, hrest] using Segments.text_ofText text
    rw [Resolver.substituted_eq, hall]
    show (Except.ok ((Segments.ofText text).filled []), s) = _
    rw [Segments.filled, htext, List.zipWith_nil_left, List.flatten_nil, List.append_nil]

/-- A resolver that counts its calls and answers with the token. -/
def counting : Resolver Nat Unit := fun r calls => (.ok r.token, calls + 1)

theorem substitute_segments_counting :
    (∀ r s, (counting.call r s).1 = .ok r.token) ∧
      (counting.substituted "é{a}$(upper:b)-${c}" 0).1 = .ok "é{a}$(upper:b)-${c}" ∧
      counting.substituted "é{a}$(upper:b)-${c}" 0 = (.ok "é{a}$(upper:b)-${c}", 2) ∧
      occursIn "-${c}" = false ∧ counting.substituted "-${c}" 0 = (.ok "-${c}", 0) := by
  have hself : ∀ r s, (counting.call r s).1 = .ok r.token := fun _ _ => rfl
  have hshell : occursIn "-${c}" = false := by decide +kernel
  obtain ⟨_, -, -, -, hback, -⟩ := substitute_segments "é{a}$(upper:b)-${c}"
  obtain ⟨_, -, -, -, -, hplain⟩ := substitute_segments "-${c}"
  exact ⟨hself, hback _ _ counting hself 0, by decide +kernel, hshell,
    hplain hshell _ _ counting 0⟩

end Reference
end ScopedConfig
