import RpcDispatch.Proofs.Dispatch.Branches

/-!
# What a branch passes on

A branch has as many arguments as its function has parameters, in their order, and does something
with a return value exactly if there is one. All of this can be told from its text, since the
strings and the numbers among its tokens give away the name, the return value and the parameters.
-/

namespace RpcDispatch

open Text

/-! ## Texts without comments -/

def Text.tokens (t : Text) : List Lexeme := (Token.ofText t).map fun x => (x.kind, x.text)

/-- The comments among the tokens are block comments, which have a star in their marks. -/
theorem Token.Reads.star_mem {kind : TokenKind} {t after : Text} (h : Reads kind t after)
    (hk : kind.isComment = true) : '*' ∈ t := by
  cases h with
  | slashComment => simp
  | parenComment => simp
  | word => split at hk <;> cases hk
  | number => cases hk
  | string => cases hk
  | single =>
      rw [Piece.singleKind.eq_def] at hk
      split at hk <;> cases hk

/-- Every comment is opened by an asterisk. -/
theorem Text.code_eq_tokens {t : Text} (h : '*' ∉ t) : t.code = t.tokens := by
  have hnone : ∀ x ∈ Token.ofText t, (!x.isComment) = true := by
    intro x hx
    obtain ⟨xs, ys, hsplit⟩ := List.append_of_mem hx
    obtain ⟨before, after, hs⟩ := Token.exists_splits hsplit
    obtain ⟨c, w, htext, hhead⟩ := hs.lexeme
    rw [Bool.not_eq_true', Bool.eq_false_iff]
    intro hk
    have hstar := (Token.reads_of_head hhead).star_mem hk
    apply h
    rw [hs.text, htext]
    exact List.mem_append_right before (List.mem_append_left after hstar)
  rw [code, List.filter_eq_self.mpr hnone]
  rfl

/-! ## What can be told from a branch -/

namespace Lexeme

def ofKind (kind : TokenKind) (ps : List Lexeme) : List Lexeme := ps.filter (·.1 == kind)

variable {kind : TokenKind} {ps qs : List Lexeme}

theorem ofKind_append : ofKind kind (ps ++ qs) = ofKind kind ps ++ ofKind kind qs :=
  List.filter_append ps qs

theorem ofKind_nil : ofKind kind [] = [] := rfl

theorem ofKind_word (hk : kind = .string ∨ kind = .number) (t : Text) :
    ofKind kind (word t :: ps) = ofKind kind ps := by
  rcases hk with rfl | rfl <;> rfl

theorem ofKind_sign (hk : kind = .string ∨ kind = .number) (c : Char) :
    ofKind kind (sign c :: ps) = ofKind kind ps := by
  have hsign : Piece.singleKind c ≠ .string ∧ Piece.singleKind c ≠ .number := by
    rw [Piece.singleKind.eq_def]
    split <;> decide
  apply List.filter_cons_of_neg
  rcases hk with rfl | rfl
  · simpa [sign] using hsign.1
  · simpa [sign] using hsign.2

theorem ofKind_string_quoted (t : Text) :
    ofKind .string (quoted t :: ps) = quoted t :: ofKind .string ps := rfl

theorem ofKind_number_quoted (t : Text) :
    ofKind .number (quoted t :: ps) = ofKind .number ps := rfl

/-- The strings and the numbers of a call stand in its arguments. -/
theorem ofKind_call (hk : kind = .string ∨ kind = .number) (name : Text)
    (args : List (List Lexeme)) : ofKind kind (call name args) = args.flatMap (ofKind kind) := by
  have hargs : ofKind kind ([sign ','].intercalate args) = args.flatMap (ofKind kind) := by
    induction args with
    | nil => rfl
    | cons a args ih =>
        cases args with
        | nil => rw [List.intercalate_singleton, List.flatMap_singleton]
        | cons b args =>
            rw [List.intercalate_cons_cons, ofKind_append, ofKind_append, ofKind_sign hk,
              ofKind_nil, List.append_nil, ih]
            rfl
  rw [call, ofKind_append, ofKind_append, ofKind_word hk, ofKind_sign hk, hargs,
    ofKind_sign hk, ofKind_nil, List.nil_append, List.append_nil]

end Lexeme

namespace Render

open Lexeme

variable {level : Text} {f g : ResolvedSignature}

/-- The strings of a branch. -/
theorem ofKind_string_branchCode (level : Text) (f : ResolvedSignature) :
    ofKind .string (branchCode level f) =
      [quoted (lower f.name), quoted ("RPC: " ++ f.name ++ "()")] ++
        if f.returns.isSome then [quoted "RPC RTN: "] else [] := by
  have harguments : (argumentsCode 1 f.parameters).flatMap (ofKind .string) = [] := by
    apply List.flatMap_eq_nil_iff.mpr
    intro a ha
    obtain ⟨⟨p, i⟩, -, rfl⟩ := List.mem_map.mp ha
    rw [ofKind_call (.inl rfl)]
    rfl
  cases hreturns : f.returns <;>
    simp only [branchCode, hreturns, declareCode, assignCode, logReturnCode, printCode,
      ofKind_append, ofKind_call (.inl rfl), ofKind_word (.inl rfl), ofKind_sign (.inl rfl),
      ofKind_string_quoted, ofKind_nil, harguments, List.flatMap_cons, List.flatMap_nil,
      List.append_nil, List.nil_append, List.cons_append, Option.isSome_none, Option.isSome_some,
      if_true, if_neg Bool.false_ne_true]

/-- Its numbers are those of the parameters. -/
theorem ofKind_number_branchCode (level : Text) (f : ResolvedSignature) :
    ofKind .number (branchCode level f) =
      (List.range' 1 f.parameters.length).map number := by
  have harguments (k : Nat) (ps : List ResolvedParameter) :
      (argumentsCode k ps).flatMap (ofKind .number) = (List.range' k ps.length).map number := by
    induction ps generalizing k with
    | nil => rfl
    | cons p ps ih =>
        have hfirst : ofKind .number (Lexeme.call p.support.accessor [[number k], messageCode]) =
            [number k] := by
          rw [ofKind_call (.inr rfl)]
          rfl
        have hrest := ih (k + 1)
        rw [argumentsCode] at hrest ⊢
        rw [List.zipIdx_cons, List.map_cons, List.flatMap_cons, hrest, hfirst]
        rfl
  cases hreturns : f.returns <;>
    simp only [branchCode, hreturns, declareCode, assignCode, logReturnCode, printCode,
      ofKind_append, ofKind_call (.inr rfl), ofKind_word (.inr rfl), ofKind_sign (.inr rfl),
      ofKind_number_quoted, ofKind_nil, harguments, List.flatMap_cons, List.flatMap_nil,
      List.append_nil, List.nil_append]

/-- Branches with the same tokens are of functions of the same name, with as many parameters, and
with a return value or without. -/
theorem of_branchCode_eq (h : branchCode level f = branchCode level g) :
    f.name = g.name ∧ f.parameters.length = g.parameters.length ∧
      f.returns.isSome = g.returns.isSome := by
  have hstrings := congrArg (ofKind .string) h
  have hnumbers := congrArg (fun ps => (ofKind .number ps).length) h
  simp only [ofKind_string_branchCode] at hstrings
  simp only [ofKind_number_branchCode, List.length_map, List.length_range'] at hnumbers
  obtain ⟨-, hstrings⟩ := List.cons.inj hstrings
  obtain ⟨hname, hreturns⟩ := List.cons.inj hstrings
  refine ⟨?_, hnumbers, ?_⟩
  · simpa [quoted] using hname
  · cases hf : f.returns with
    | none => cases hg : g.returns with
      | none => rfl
      | some t => simp [hf, hg] at hreturns
    | some t => cases hg : g.returns with
      | none => simp [hf, hg] at hreturns
      | some u => rfl

theorem arguments_congr {ps qs : List ResolvedParameter} (k : Nat)
    (h : ps.map (·.support) = qs.map (·.support)) : arguments k ps = arguments k qs := by
  induction ps generalizing qs k with
  | nil => rw [List.map_eq_nil_iff.mp h.symm]
  | cons p ps ih =>
      obtain ⟨q, qs, rfl, hp, hps⟩ := List.map_eq_cons_iff.mp h.symm
      have hsupport : p.support = q.support := hp.symm
      rw [arguments, arguments, ih (k + 1) hps.symm, hsupport]

/-- Of the parameters a branch holds nothing but their types. -/
theorem branch_congr (hname : f.name = g.name) (hreturns : f.returns = g.returns)
    (hparameters : f.parameters.map (·.support) = g.parameters.map (·.support))
    (s : DispatchSettings) : branch s f = branch s g := by
  have hcall : call f = call g := by
    rw [call, call, arguments_congr 1 hparameters, hname, hreturns]
  rw [branch, branch, hcall, hname, hreturns]

end Render

/-! ## The signature of a branch -/

/-- The signature as it stands in the source, with the support for each of its types. -/
structure Signature.ResolvesTo (s : Signature) (f : ResolvedSignature) : Prop where
  name : f.name = s.name
  parameters : Parameter.parseList s.rawParams = .ok (f.parameters.map (·.parameter))
  supports : ∀ p ∈ f.parameters,
    TypeSupport.ofScalar? p.parameter.type p.parameter.width = some p.support
  returns : s.returnType.map (TypeSupport.ofScalar? · s.returnWidth) = f.returns.map some

theorem Signature.Accepts.resolvesTo {s : Signature} {ps : List Parameter} (h : s.Accepts ps) :
    s.ResolvesTo (s.accepted ps) where
  name := rfl
  parameters := by
    have hps : (ps.map ResolvedParameter.ofInteger).map (·.parameter) = ps := by
      rw [List.map_map]
      exact List.map_id ps
    rw [h.2.1, accepted, hps]
  supports := by
    intro p hp
    obtain ⟨q, hq, rfl⟩ := List.mem_map.mp hp
    exact TypeSupport.ofScalar?_of_isInteger (h.2.2 q hq)
  returns := by
    cases htype : s.returnType with
    | none => simp [accepted, htype]
    | some type => simp [accepted, htype, TypeSupport.ofScalar?_of_isInteger (h.1 type htype)]

namespace Render

open Lexeme

/-- Read back, the text of a branch is its code, token by token. -/
theorem tokens_branch {s : DispatchSettings} (hlevel : s.logLevel.isIdentifier = true)
    {f : Signature} (hname : f.name.isIdentifier = true) (ps : List Parameter) :
    (branch s (f.accepted ps)).tokens = branchCode s.logLevel (f.accepted ps) := by
  have hplain : Text.Plain (· ≠ '*') := fun _ _ hc => hc
  have hwithin := within_branch hplain (hplain.within_of_isWord (isWord_of_isIdentifier hlevel))
    (isWord_of_isIdentifier hname) ps
  have hstar : '*' ∉ branch s (f.accepted ps) := fun hmem => hwithin '*' hmem rfl
  rw [← code_eq_tokens hstar]
  exact (leads_branch hlevel (Signature.isWritable_accepted hname ps)).code_eq

/-- The tokens of a branch are one `if`, which compares the name in lower case and has one block. In
it the function is called with as many arguments as it has parameters, the `k`-th of them taken out
of the message by the function for its type and the number `k`. A variable for the value is
declared, assigned and logged if there is a return type, and only then. So what has the same branch
has the same name, as many parameters, and a return type or none. -/
theorem branch_marshals {source : SourceText} {s : Signature}
    (hs : s ∈ source.extract.signatures) {r : Registry} {f : ResolvedSignature}
    (hf : (s.validate r).1 = .ok f) {settings : DispatchSettings}
    (hlevel : settings.logLevel.isIdentifier = true) :
    let text := branch settings f
    s.ResolvesTo f ∧
      text.tokens = branchCode settings.logLevel f ∧
      (∀ b ∈ TokenKind.brackets, text.isBalanced b.1 b.2 = true) ∧
      ∀ {source' : SourceText} {s' : Signature} {r' : Registry} {f' : ResolvedSignature},
        s' ∈ source'.extract.signatures → (s'.validate r').1 = .ok f' →
        branch settings f' = text →
        s'.name = s.name ∧
          (Parameter.parseList s'.rawParams).map List.length =
            (Parameter.parseList s.rawParams).map List.length ∧
          s'.returnType.isSome = s.returnType.isSome := by
  intro text
  obtain ⟨ps, haccepts, rfl⟩ := Signature.of_validate_eq_ok hf
  have hname := SourceText.isIdentifier_of_mem_signatures hs
  have htokens : text.tokens = branchCode settings.logLevel (s.accepted ps) :=
    tokens_branch hlevel hname ps
  have hneutral := isNeutral_branch hlevel (Signature.isWritable_accepted hname ps)
  refine ⟨haccepts.resolvesTo, htokens, (isNeutral_code_iff.mp hneutral.neutral).2, ?_⟩
  intro source' s' r' f' hs' hf' htext
  obtain ⟨ps', haccepts', rfl⟩ := Signature.of_validate_eq_ok hf'
  have htokens' := tokens_branch hlevel (SourceText.isIdentifier_of_mem_signatures hs') ps'
  rw [htext, htokens] at htokens'
  obtain ⟨hsame, hlength, hreturns⟩ := of_branchCode_eq htokens'.symm
  refine ⟨hsame, ?_, ?_⟩
  · rw [haccepts'.2.1, haccepts.2.1]
    simpa [Signature.accepted, Except.map] using hlength
  · simpa [Signature.accepted] using hreturns

/-- A function with a value and two parameters, which the second source declares in other words. -/
theorem branch_marshals_sum :
    let source : SourceText := ⟨⟨"sum.axi"⟩,
      "/* sum */ define_function integer Sum(integer a, INTEGER b) \x7breturn a + b\x7d"⟩
    let other : SourceText := ⟨⟨"other.axi"⟩,
      "define_function Integer Sum(constant integer x, integer y)\x7b\x7d"⟩
    let f : ResolvedSignature := ⟨"Sum", some .integer,
      [⟨⟨[], "integer", "a", none⟩, .integer⟩, ⟨⟨[], "INTEGER", "b", none⟩, .integer⟩]⟩
    let f' : ResolvedSignature := ⟨"Sum", some .integer,
      [⟨⟨["constant"], "integer", "x", none⟩, .integer⟩, ⟨⟨[], "integer", "y", none⟩, .integer⟩]⟩
    let settings : DispatchSettings := { logLevel := "LOG_LEVEL_DEBUG" }
    settings.logLevel.isIdentifier = true ∧ branch settings f' = branch settings f ∧
      (∃ s ∈ source.extract.signatures, ∃ s' ∈ other.extract.signatures,
        (s.validate .empty).1 = .ok f ∧ (s'.validate .empty).1 = .ok f' ∧
        s.ResolvesTo f ∧ s'.name = s.name ∧ s'.returnType.isSome = s.returnType.isSome) ∧
      (branch settings f).isBalanced .leftBrace .rightBrace = true ∧
      (branch settings f).tokens =
        Lexeme.call "if" [Lexeme.call "compare_string" [[word "f_name"], [quoted "sum"]]] ++
        [sign '\x7b', word "integer", word "return_value", sign ';'] ++
        Lexeme.call "print" [[word "LOG_LEVEL_DEBUG"], [quoted "RPC: Sum()"]] ++
        [sign ';', word "return_value", sign '='] ++
        Lexeme.call "Sum"
          [Lexeme.call "rpc_get_arg_i" [[number 1], messageCode],
            Lexeme.call "rpc_get_arg_i" [[number 2], messageCode]] ++
        [sign ';'] ++
        Lexeme.call "print" [[word "LOG_LEVEL_DEBUG"],
          [sign '"', quoted "RPC RTN: ", sign ','] ++
            Lexeme.call "itoa" [[word "return_value"]] ++ [sign '"']] ++
        [sign ';', sign '\x7d'] := by
  intro source other f f' settings
  have hlevel : settings.logLevel.isIdentifier = true := by decide
  have hsupports : f'.parameters.map (·.support) = f.parameters.map (·.support) := by decide
  have htext := branch_congr (f := f') (g := f) rfl rfl hsupports settings
  have hsource : ∃ s ∈ source.extract.signatures, (s.validate .empty).1 = .ok f := by decide
  have hother : ∃ s ∈ other.extract.signatures, (s.validate .empty).1 = .ok f' := by decide
  obtain ⟨s, hs, hf⟩ := hsource
  obtain ⟨s', hs', hf'⟩ := hother
  obtain ⟨hresolves, htokens, hbalanced, hsame⟩ := branch_marshals hs hf hlevel
  obtain ⟨hname, -, hreturns⟩ := hsame hs' hf' htext
  refine ⟨hlevel, htext, ⟨s, hs, s', hs', hf, hf', hresolves, hname, hreturns⟩, ?_, ?_⟩
  · exact hbalanced (.leftBrace, .rightBrace) (by decide)
  · rw [htokens]
    decide

end Render

end RpcDispatch
