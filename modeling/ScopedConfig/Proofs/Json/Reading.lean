import Mathlib.Data.List.Basic
import ScopedConfig.Json.Reader
import ScopedConfig.Json.Writer

/-! # Reading what was written as JSON

A document is read in two passes, and what is read of a part of its text does not
depend on what surrounds the part: between tokens, a text adds its tokens to those that
were read before (`Lexes`), and where a value may stand, the tokens of a value put it
there (`Builds`).  Both are put together for a string, whatever characters it has, and
for an object from its members, so that a text written of such parts is read as the
document that it was written for (`read?_of_lexes`).
-/
namespace ScopedConfig.Json

variable {text other : Text} {tokens others : List Token} {json : Json}

/-! ## Tokens -/

/-- **A text has the given tokens**, wherever it begins and ends between tokens. -/
def Lexes (text : Text) (tokens : List Token) : Prop :=
  ∀ before, text.foldlM Lexer.step ⟨before, .between⟩ =
    some ⟨tokens.reverse ++ before, .between⟩

theorem lexes_nil : Lexes [] [] := fun _ => rfl

theorem Lexes.append (h : Lexes text tokens) (h' : Lexes other others) :
    Lexes (text ++ other) (tokens ++ others) := by
  intro before
  rw [List.foldlM_append, h before]
  show other.foldlM Lexer.step ⟨tokens.reverse ++ before, .between⟩ = _
  rw [h', List.reverse_append, List.append_assoc]

/-- White space has no tokens. -/
theorem lexes_gap (h : text.all isGap = true) : Lexes text [] := by
  induction text with
  | nil => exact lexes_nil
  | cons c rest ih =>
    rw [List.all_cons, Bool.and_eq_true] at h
    intro before
    rw [List.foldlM_cons]
    simp only [Lexer.step, Lexer.stepBetween, h.1, if_true]
    exact ih h.2 before

theorem lexes_punctuation {c : Char} {token : Token} (h : punctuation? c = some token)
    (hgap : isGap c = false) (hquote : c ≠ '"') : Lexes [c] [token] := by
  intro before
  simp [Lexer.step, Lexer.stepBetween, h, hgap, hquote]

/-! ## Strings -/

theorem digitBelow?_hexDigit : ∀ n < 16, Text.digitBelow? 16 (hexDigit n) = some n := by
  decide

/-- **A character is read as itself**, escaped or not. -/
theorem foldlM_escape (c : Char) (before : List Token) (units : List Unit16) :
    (escape c).foldlM Lexer.step ⟨before, .string units⟩ =
      some ⟨before, .string (.char c :: units)⟩ := by
  unfold escape
  split
  iterate 7 rfl
  next hquote hbackslash _ _ _ _ _ =>
    split
    · next hcontrol =>
      have hhigh := digitBelow?_hexDigit (c.toNat / 16) (by omega)
      have hlow := digitBelow?_hexDigit (c.toNat % 16) (by omega)
      have hzero : Text.digitBelow? 16 '0' = some 0 := rfl
      have hvalue : c.toNat / 16 * 16 + c.toNat % 16 = c.toNat := by omega
      have hunit : Unit16.ofNat c.toNat = .char c := by
        rw [Unit16.ofNat, if_neg (by simp; omega), Char.ofNat_toNat]
      simp [Lexer.step, hzero, hhigh, hlow, hvalue, hunit]
    · next hprinted => simp [Lexer.step, mt hquote, mt hbackslash, hprinted]

theorem joinUnits_map_char (text : Text) : joinUnits (text.map .char) = some text := by
  induction text with
  | nil => rfl
  | cons c rest ih => rw [List.map_cons, joinUnits, ih, Option.map_some]

/-- **A text in quotes is one string**, whatever characters it has. -/
theorem lexes_quoted (text : Text) : Lexes (quoted text) [.string (some text)] := by
  intro before
  have hunits : ∀ units, (text.flatMap escape).foldlM Lexer.step ⟨before, .string units⟩ =
      some ⟨before, .string ((text.map Unit16.char).reverse ++ units)⟩ := by
    induction text with
    | nil => exact fun _ => rfl
    | cons c rest ih =>
      intro units
      rw [List.flatMap_cons, List.foldlM_append, foldlM_escape]
      exact (ih (.char c :: units)).trans (by simp)
  have hopen : Lexer.step ⟨before, .between⟩ '"' = some ⟨before, .string []⟩ := rfl
  rw [quoted, List.cons_append, List.foldlM_cons, hopen]
  show ((text.flatMap escape ++ ['"']).foldlM Lexer.step ⟨before, .string []⟩) = _
  rw [List.foldlM_append, hunits]
  simp [Lexer.step, joinUnits_map_char]

/-! ## Values -/

/-- **Tokens stand for a value**, wherever a value may stand. -/
def Builds (tokens : List Token) (json : Json) : Prop :=
  ∀ stack, tokens.foldlM Builder.step (.value stack) = some (.deliver json stack)

theorem builds_string (text : Text) : Builds [.string (some text)] (.string (some text)) :=
  fun _ => rfl

/-- The tokens of the members of an object, given those of their values. -/
def memberTokens : List (Text × List Token) → List Token
  | [] => []
  | [(name, value)] => .string (some name) :: .colon :: value
  | (name, value) :: rest => .string (some name) :: .colon :: value ++ .comma :: memberTokens rest

/-- The tokens of an object, given those of the values of its members. -/
def objectTokens (members : List (Text × List Token)) : List Token :=
  .openObject :: memberTokens members ++ [.closeObject]

section Object

variable {α : Type} (members : List α) (name : α → Text) {value : α → Text}
  {tokens : α → List Token} {json : α → Json}

/-- Members are put behind those that are there. -/
theorem foldlM_memberTokens {first : α} {rest : List α}
    (h : ∀ member ∈ first :: rest, Builds (tokens member) (json member)) (stack : List Frame)
    (before : List (Option Text × Json)) :
    (memberTokens ((first :: rest).map fun member => (name member, tokens member))).foldlM
        Builder.step (.member stack before) =
      some (.behindMember stack
        (((first :: rest).map fun member => (some (name member), json member)).reverse ++
          before)) := by
  induction rest generalizing first before with
  | nil => exact h first List.mem_cons_self (.object before (some (name first)) :: stack)
  | cons second rest ih =>
    have hfirst := h first List.mem_cons_self (.object before (some (name first)) :: stack)
    have hrest := @ih second (fun member hm => h member (List.mem_cons_of_mem first hm))
      ((some (name first), json first) :: before)
    -- the name, the colon, the value and the comma are behind the frame of the object
    show (tokens first ++ .comma :: memberTokens ((second :: rest).map
      fun member => (name member, tokens member))).foldlM Builder.step
        (.value (.object before (some (name first)) :: stack)) = _
    rw [List.foldlM_append, hfirst]
    exact hrest.trans (by simp)

/-- **An object is put together from its members.** -/
theorem builds_object (h : ∀ member ∈ members, Builds (tokens member) (json member)) :
    Builds (objectTokens (members.map fun member => (name member, tokens member)))
      (.object (members.map fun member => (some (name member), json member))) := by
  intro stack
  cases members with
  | nil => rfl
  | cons first rest =>
    have hmembers := foldlM_memberTokens name h stack []
    -- in front of its first member, an object is like one between two members
    have hopen : (objectTokens ((first :: rest).map
          fun member => (name member, tokens member))).foldlM Builder.step (.value stack) =
        (memberTokens ((first :: rest).map
          fun member => (name member, tokens member)) ++ [Token.closeObject]).foldlM Builder.step
            (.member stack []) := by
      cases rest <;> rfl
    rw [hopen, List.foldlM_append, hmembers]
    simp [Builder.step]

/-- The members of an object have their tokens, each with a comma behind it but the
last. -/
theorem lexes_members {inner : Text} (hinner : inner.all isGap = true) (first : α)
    (rest : List α) (h : ∀ member ∈ first :: rest, Lexes (value member) (tokens member)) :
    Lexes (Text.join [',', '\n'] ((first :: rest).map fun member =>
        inner ++ quoted (name member) ++ ": " ++ value member))
      (memberTokens ((first :: rest).map fun member => (name member, tokens member))) := by
  have hspace : Lexes [' '] [] := lexes_gap rfl
  have hline : Lexes ['\n'] [] := lexes_gap rfl
  have hcolon : Lexes ": " [.colon] := (lexes_punctuation rfl rfl (by decide)).append hspace
  have hcomma : Lexes [',', '\n'] [.comma] := (lexes_punctuation rfl rfl (by decide)).append hline
  have hmember : ∀ member, Lexes (value member) (tokens member) →
      Lexes (inner ++ quoted (name member) ++ ": " ++ value member)
        (.string (some (name member)) :: .colon :: tokens member) := fun member hvalue =>
    (((lexes_gap hinner).append (lexes_quoted _)).append hcolon).append hvalue
  induction rest generalizing first with
  | nil => exact hmember first (h first List.mem_cons_self)
  | cons second rest ih =>
    have hfirst := hmember first (h first List.mem_cons_self)
    have hrest := ih second fun member hm => h member (List.mem_cons_of_mem first hm)
    have hjoined := hfirst.append (hcomma.append hrest)
    rw [← List.append_assoc] at hjoined
    exact hjoined

end Object

/-! ## Documents -/

/-- **A text is read as the document that its tokens stand for.** -/
theorem read?_of_lexes (h : Lexes text tokens) (h' : Builds tokens json) :
    read? text = some json := by
  have htokens : tokens? text = some tokens := by
    rw [tokens?, Lexer.start, h []]
    simp [Lexer.finish]
  rw [read?, htokens, Option.bind_some, ofTokens?, h' []]
  rfl

end ScopedConfig.Json
