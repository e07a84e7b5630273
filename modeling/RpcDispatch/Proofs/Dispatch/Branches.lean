import RpcDispatch.Proofs.Dispatch.Blocks

/-!
# The code of a branch

A branch compares the name of the function that was asked for, and calls the function with arguments
taken out of the message. Here its tokens are written down for every signature and every log level,
and the text of the branch is shown to have them.
-/

namespace RpcDispatch

open Text

abbrev Lexeme : Type := TokenKind × Text

namespace Lexeme

def word (t : Text) : Lexeme := (.ident, t)

/-- A character that is a token of its own. -/
def sign (c : Char) : Lexeme := (Piece.singleKind c, [c])

def number (n : Nat) : Lexeme := (.number, ofNat n)

def quoted (t : Text) : Lexeme := (.string, "'" ++ t ++ "'")

/-- A word with arguments in parentheses, and single commas between them. -/
def call (name : Text) (args : List (List Lexeme)) : List Lexeme :=
  [word name, sign '('] ++ [sign ','].intercalate args ++ [sign ')']

variable {name : Text} {a b : List Lexeme}

theorem call_singleton : call name [a] = word name :: sign '(' :: (a ++ [sign ')']) := by
  rw [call, List.intercalate_singleton]
  rfl

theorem call_pair :
    call name [a, b] = word name :: sign '(' :: (a ++ sign ',' :: (b ++ [sign ')'])) := by
  rw [call, List.intercalate_cons_cons, List.intercalate_singleton]
  simp only [List.append_assoc, List.cons_append, List.nil_append]

end Lexeme

structure TypeSupport.IsWritable (t : TypeSupport) : Prop where
  accessor : t.accessor.isIdentifier = true
  declaration : t.declaration.isIdentifier = true
  printer : t.printer.isIdentifier = true

theorem TypeSupport.isWritable_of_mem {t : TypeSupport} (h : t ∈ table) : t.IsWritable := by
  obtain rfl := List.mem_singleton.mp h
  constructor <;> decide

structure ResolvedSignature.IsWritable (f : ResolvedSignature) : Prop where
  name : f.name.isIdentifier = true
  parameters : ∀ p ∈ f.parameters, p.support.IsWritable
  returns : ∀ t ∈ f.returns, t.IsWritable

theorem Signature.isWritable_accepted {s : Signature} (hname : s.name.isIdentifier = true)
    (ps : List Parameter) : (s.accepted ps).IsWritable where
  name := hname
  parameters := by
    intro p hp
    obtain ⟨q, -, rfl⟩ := List.mem_map.mp hp
    exact TypeSupport.isWritable_of_mem (List.mem_singleton_self _)
  returns := by
    intro t ht
    obtain ⟨type, -, rfl⟩ := Option.map_eq_some_iff.mp ht
    exact TypeSupport.isWritable_of_mem (List.mem_singleton_self _)

namespace Render

open Lexeme

/-! ## What a branch says -/

def messageCode : List Lexeme := [word "data", sign '.', word "text"]

/-- The arguments, each with its number in the message, where the first has number `k`. -/
def argumentsCode (k : Nat) (ps : List ResolvedParameter) : List (List Lexeme) :=
  (ps.zipIdx k).map fun (p, i) => Lexeme.call p.support.accessor [[number i], messageCode]

def declareCode : Option TypeSupport → List Lexeme
  | none => []
  | some t => [word t.declaration, word returnValue, sign ';']

def assignCode : Option TypeSupport → List Lexeme
  | none => []
  | some _ => [word returnValue, sign '=']

def printCode (level : Text) (what : List Lexeme) : List Lexeme :=
  Lexeme.call "print" [[word level], what] ++ [sign ';']

def logReturnCode (level : Text) : Option TypeSupport → List Lexeme
  | none => []
  | some t => printCode level
      ([sign '"', quoted "RPC RTN: ", sign ','] ++ Lexeme.call t.printer [[word returnValue]] ++
        [sign '"'])

def branchCode (level : Text) (f : ResolvedSignature) : List Lexeme :=
  Lexeme.call "if" [Lexeme.call "compare_string" [[word functionName], [quoted (lower f.name)]]] ++
  [sign '\x7b'] ++
  declareCode f.returns ++
  printCode level [quoted ("RPC: " ++ f.name ++ "()")] ++
  assignCode f.returns ++ Lexeme.call f.name (argumentsCode 1 f.parameters) ++ [sign ';'] ++
  logReturnCode level f.returns ++
  [sign '\x7d']

/-! ## That its text says so -/

variable {t u : Text} {ps qs : List Lexeme} {level : Text} {f : ResolvedSignature}

/-- Behind an opening parenthesis a word or a number makes no comment of it. -/
theorem any_head?_of_isWord (hne : t ≠ []) (h : ∀ c ∈ t, Piece.isWordPart c = true) (u : Text) :
    (t ++ u).head?.any (· != '*') = true := by
  obtain ⟨c, t, rfl⟩ := List.exists_cons_of_ne_nil hne
  have hc := h c List.mem_cons_self
  have hstar : c ≠ '*' := by
    rintro rfl
    exact absurd hc (by decide)
  simpa using hstar

theorem any_head?_of_isIdentifier (h : t.isIdentifier = true) (u : Text) :
    (t ++ u).head?.any (· != '*') = true := by
  refine any_head?_of_isWord ?_ (isWord_of_isIdentifier h) u
  rintro rfl
  cases h

/-- A word in front of an opening parenthesis, where no comment begins. -/
theorem leads_applied (ht : t.isIdentifier = true) (hhead : u.head?.any (· != '*') = true)
    (hu : Leads u ps) : Leads (t ++ '(' :: u) (word t :: sign '(' :: ps) := by
  cases u with
  | nil => simp at hhead
  | cons d u =>
      have hd : d ≠ '*' := by simpa using hhead
      exact Leads.identifier ht rfl (hu.leftParen hd)

/-- A text that stands as it is. -/
theorem leads_fixed (h : t.isBlock = true) (hcode : t.code = ps) : Leads t ps :=
  hcode ▸ leads_of_isBlock h

/-- A line of the log, where the end of what is logged is left open. -/
theorem leads_print (hlevel : level.isIdentifier = true)
    (hu : Leads (u ++ ");\n") (qs ++ [sign ')', sign ';'])) :
    Leads (line inner ("print(" ++ level ++ ", " ++ u ++ ");")) (printCode level qs) := by
  have hcomma : Leads ", " [sign ','] := leads_fixed (by decide) (by decide)
  have hwhat : Leads (',' :: ' ' :: (u ++ ");\n")) (sign ',' :: (qs ++ [sign ')', sign ';'])) :=
    hcomma.append hu
  have hprint : Leads ("print" ++ '(' :: (level ++ ',' :: ' ' :: (u ++ ");\n")))
      (word "print" :: sign '(' :: word level :: sign ',' :: (qs ++ [sign ')', sign ';'])) :=
    leads_applied (by decide) (any_head?_of_isIdentifier hlevel _)
      (Leads.identifier hlevel rfl hwhat)
  apply leads_line
  rw [printCode, call_pair]
  simp only [List.append_assoc, List.cons_append, List.nil_append]
  exact hprint

theorem quote_notMem_of_isWord {w : Text} (h : ∀ c ∈ w, Piece.isWordPart c = true) : '\'' ∉ w :=
  fun hmem => absurd (h _ hmem) (by decide)

/-- The name is compared as a quoted word, and there is no quote in it to end it early. -/
theorem leads_condition {name : Text} (hname : '\'' ∉ lower name) :
    Leads (line outer ("if(compare_string(" ++ functionName ++ ", '" ++ lower name ++ "'))"))
      (Lexeme.call "if"
        [Lexeme.call "compare_string" [[word functionName], [quoted (lower name)]]]) := by
  have hopen : Leads ("if(compare_string(" ++ functionName ++ ", ")
      [word "if", sign '(', word "compare_string", sign '(', word functionName, sign ','] :=
    leads_fixed (by decide) (by decide)
  have hquoted : Leads ("'" ++ lower name ++ "'") [quoted (lower name)] := leads_string hname
  have hclose : Leads "))\n" [sign ')', sign ')'] := leads_fixed (by decide) (by decide)
  have hline := hopen.append (hquoted.append hclose)
  apply leads_line
  rw [call_singleton, call_pair]
  simp only [List.append_assoc] at hline ⊢
  exact hline

theorem leads_declareReturn {r : Option TypeSupport} (h : ∀ t ∈ r, t.IsWritable) :
    Leads (declareReturn r) (declareCode r) := by
  cases r with
  | none => exact .nil
  | some t =>
      have hvalue : Leads " return_value;\n" [word returnValue, sign ';'] :=
        leads_fixed (by decide) (by decide)
      have hline : Leads (line inner (t.declare returnValue)) (declareCode (some t)) := by
        apply leads_line
        rw [TypeSupport.declare]
        simp only [List.append_assoc]
        exact Leads.identifier (h t rfl).declaration rfl hvalue
      exact hline.append leads_emptyLine

/-- The name of the function in the log. -/
theorem leads_logCall (hlevel : level.isIdentifier = true) {name : Text} (hname : '\'' ∉ name) :
    Leads (line inner ("print(" ++ level ++ ", 'RPC: " ++ name ++ "()');"))
      (printCode level [quoted ("RPC: " ++ name ++ "()")]) := by
  have hcall : '\'' ∉ "RPC: " ++ name ++ "()" := by simpa using hname
  have hquoted : Leads ("'" ++ ("RPC: " ++ name ++ "()") ++ "'")
      [quoted ("RPC: " ++ name ++ "()")] := leads_string hcall
  have hend : Leads ");\n" [sign ')', sign ';'] := leads_fixed (by decide) (by decide)
  have hline := leads_print hlevel (hquoted.append hend)
  simp only [line, List.append_assoc] at hline ⊢
  exact hline

theorem leads_logReturn {s : DispatchSettings} (hlevel : s.logLevel.isIdentifier = true)
    {r : Option TypeSupport} (h : ∀ t ∈ r, t.IsWritable) :
    Leads (logReturn s r) (logReturnCode s.logLevel r) := by
  cases r with
  | none => exact .nil
  | some t =>
      have hopen : Leads "\"'RPC RTN: ', " [sign '"', quoted "RPC RTN: ", sign ','] :=
        leads_fixed (by decide) (by decide)
      have hclose : Leads "return_value)\");\n"
          [word returnValue, sign ')', sign '"', sign ')', sign ';'] :=
        leads_fixed (by decide) (by decide)
      have hvalue := hopen.append (leads_applied (h t rfl).printer rfl hclose)
      have hwhat : Leads ("\"'RPC RTN: ', " ++ t.stringify returnValue ++ "\"" ++ ");\n")
          ([sign '"', quoted "RPC RTN: ", sign ','] ++ Lexeme.call t.printer [[word returnValue]] ++
            [sign '"'] ++ [sign ')', sign ';']) := by
        rw [call_singleton, TypeSupport.stringify]
        simp only [List.append_assoc]
        exact hvalue
      have hline := leads_print hlevel hwhat
      have hprint : Leads (line inner
          ("print(" ++ s.logLevel ++ ", \"'RPC RTN: ', " ++ t.stringify returnValue ++ "\");"))
          (logReturnCode s.logLevel (some t)) := by
        simp only [line, List.append_assoc] at hline ⊢
        exact hline
      exact leads_emptyLine.append hprint

/-! ## The call -/

/-- One argument, and what ends its line. -/
theorem leads_argument {p : ResolvedParameter} (hp : p.support.IsWritable) (k : Nat)
    (hu : Leads (", data.text)" ++ u) (sign ',' :: (messageCode ++ sign ')' :: ps))) :
    Leads (List.replicate 16 ' ' ++ p.support.argument k message ++ u)
      (Lexeme.call p.support.accessor [[number k], messageCode] ++ ps) := by
  have hdigits : ∀ c ∈ ofNat k, c.isDigit = true := fun c hc =>
    Nat.isDigit_of_mem_toDigits (by decide) (by decide) hc
  have hhead := any_head?_of_isWord (t := ofNat k) Nat.toDigits_ne_nil
    (fun c hc => Piece.isWordPart_of_isDigit (hdigits c hc)) (", data.text)" ++ u)
  have hrest : Leads (',' :: (" data.text)" ++ u)) (sign ',' :: (messageCode ++ sign ')' :: ps)) :=
    hu
  have hcall := leads_applied hp.accessor hhead
    (Leads.number hdigits Nat.toDigits_ne_nil rfl hrest)
  rw [call_pair, TypeSupport.argument]
  simp only [List.append_assoc, List.cons_append, List.nil_append]
  exact (leads_indent 16).append hcall

/-- One argument on each line, numbered from `k`, with a comma behind all but the last. -/
theorem leads_arguments (k : Nat) {ps : List ResolvedParameter}
    (h : ∀ p ∈ ps, p.support.IsWritable) :
    Leads (intercalate [',', '\n'] ((arguments k ps).map (List.replicate 16 ' ' ++ ·)) ++ ['\n'])
      ([sign ','].intercalate (argumentsCode k ps)) := by
  induction ps generalizing k with
  | nil => exact leads_blanks (t := ['\n']) (by decide)
  | cons p ps ih =>
      rw [List.forall_mem_cons] at h
      cases ps with
      | nil =>
          have hlast : Leads ", data.text)\n" (sign ',' :: (messageCode ++ [sign ')'])) :=
            leads_fixed (by decide) (by decide)
          have hone := leads_argument h.1 k (u := ['\n']) hlast
          rwa [List.append_nil] at hone
      | cons q ps =>
          have hnext : Leads ", data.text),\n"
              (sign ',' :: (messageCode ++ [sign ')', sign ','])) :=
            leads_fixed (by decide) (by decide)
          have hall := (leads_argument h.1 k (u := [',', '\n']) hnext).append (ih (k + 1) h.2)
          rw [← List.append_assoc] at hall
          exact hall

/-- The name of the function, behind the variable for its value if it has one. -/
theorem leads_target (hname : f.name.isIdentifier = true) (hhead : u.head?.any (· != '*') = true)
    (hu : Leads u qs) :
    Leads ((if f.returns.isSome then returnValue ++ " = " ++ f.name else f.name) ++ '(' :: u)
      (assignCode f.returns ++ word f.name :: sign '(' :: qs) := by
  have happlied := leads_applied hname hhead hu
  cases f.returns with
  | none => exact happlied
  | some t =>
      have hvalue : Leads (returnValue ++ " = ") [word returnValue, sign '='] :=
        leads_fixed (by decide) (by decide)
      have hassign := hvalue.append happlied
      rw [← List.append_assoc] at hassign
      exact hassign

theorem leads_call (hf : f.IsWritable) :
    Leads (call f) (assignCode f.returns ++ Lexeme.call f.name (argumentsCode 1 f.parameters) ++
      [sign ';']) := by
  have harguments := leads_arguments 1 hf.parameters
  rw [call]
  cases hps : f.parameters with
  | nil =>
      have hclose : Leads ");\n" [sign ')', sign ';'] := leads_fixed (by decide) (by decide)
      have hline := leads_target hf.name rfl hclose
      apply leads_line
      simp only [List.append_assoc]
      exact hline
  | cons p ps =>
      have hopen : Leads "\n" [] := leads_blanks (by decide)
      have hclose : Leads (line inner ");") [sign ')', sign ';'] :=
        leads_fixed (by decide) (by decide)
      rw [hps] at harguments
      have hline := leads_target hf.name rfl (hopen.append (harguments.append hclose))
      simp only [line, arguments, Lexeme.call, List.append_assoc, List.cons_append,
        List.nil_append] at hline ⊢
      exact (leads_indent inner).append hline

/-- The branch of a signature, whatever its name, its types and the log level. -/
theorem leads_branch {s : DispatchSettings} (hlevel : s.logLevel.isIdentifier = true)
    (hf : f.IsWritable) : Leads (branch s f) (branchCode s.logLevel f) := by
  have hname := isWord_of_isIdentifier hf.name
  have hcondition := leads_condition (quote_notMem_of_isWord (isWord_lower hname))
  have hopen : Leads (line outer "\x7b") [sign '\x7b'] := leads_fixed (by decide) (by decide)
  have hclose : Leads (line outer "\x7d" ++ line 0 []) [sign '\x7d'] :=
    leads_fixed (by decide) (by decide)
  have hlog := (leads_logCall hlevel (quote_notMem_of_isWord hname)).append
    (leads_emptyLine (n := inner))
  have hbody := (((leads_declareReturn hf.returns).append hlog).append (leads_call hf)).append
    (leads_logReturn hlevel hf.returns)
  have hbranch := ((hcondition.append hopen).append hbody).append hclose
  simpa only [branch, branchCode, List.append_assoc, List.nil_append] using hbranch

/-! ## Its brackets -/

theorem isNeutral_word (t : Text) : TokenKind.IsNeutral ([word t].map Prod.fst) :=
  (by decide : TokenKind.IsNeutral [.ident])

theorem isNeutral_call (name : Text) {args : List (List Lexeme)}
    (h : ∀ a ∈ args, TokenKind.IsNeutral (a.map Prod.fst)) :
    TokenKind.IsNeutral ((Lexeme.call name args).map Prod.fst) := by
  have hargs : TokenKind.IsNeutral (([sign ','].intercalate args).map Prod.fst) := by
    induction args with
    | nil => exact (by decide : TokenKind.IsNeutral [])
    | cons a args ih =>
        rw [List.forall_mem_cons] at h
        cases args with
        | nil => rw [List.intercalate_singleton]; exact h.1
        | cons b args =>
            rw [List.intercalate_cons_cons, List.map_append, List.map_append]
            exact (h.1.append (by decide)).append (ih h.2)
  have hparens : TokenKind.IsNeutral ([.ident, .leftParen] ++ [.rightParen]) := by decide
  rw [Lexeme.call, List.map_append, List.map_append]
  exact hparens.insert hargs

theorem isNeutral_argumentsCode (k : Nat) (ps : List ResolvedParameter) :
    ∀ a ∈ argumentsCode k ps, TokenKind.IsNeutral (a.map Prod.fst) := by
  intro a ha
  obtain ⟨⟨p, i⟩, -, rfl⟩ := List.mem_map.mp ha
  apply isNeutral_call
  rw [List.forall_mem_cons, List.forall_mem_singleton]
  exact ⟨(by decide : TokenKind.IsNeutral [.number]), by decide⟩

theorem isNeutral_printCode (level : Text) (h : TokenKind.IsNeutral (qs.map Prod.fst)) :
    TokenKind.IsNeutral ((printCode level qs).map Prod.fst) := by
  rw [printCode, List.map_append]
  refine (isNeutral_call _ ?_).append (by decide)
  rw [List.forall_mem_cons, List.forall_mem_singleton]
  exact ⟨isNeutral_word level, h⟩

theorem isNeutral_declareCode (r : Option TypeSupport) :
    TokenKind.IsNeutral ((declareCode r).map Prod.fst) := by
  cases r with
  | none => exact (by decide : TokenKind.IsNeutral [])
  | some t => exact (by decide : TokenKind.IsNeutral [.ident, .ident, .other])

theorem isNeutral_assignCode (r : Option TypeSupport) :
    TokenKind.IsNeutral ((assignCode r).map Prod.fst) := by
  cases r with
  | none => exact (by decide : TokenKind.IsNeutral [])
  | some t => exact (by decide : TokenKind.IsNeutral [.ident, .other])

theorem isNeutral_logReturnCode (level : Text) (r : Option TypeSupport) :
    TokenKind.IsNeutral ((logReturnCode level r).map Prod.fst) := by
  cases r with
  | none => exact (by decide : TokenKind.IsNeutral [])
  | some t =>
      apply isNeutral_printCode
      rw [List.map_append, List.map_append]
      refine (TokenKind.IsNeutral.append (by decide) (isNeutral_call _ ?_)).append (by decide)
      rw [List.forall_mem_singleton]
      exact isNeutral_word returnValue

/-- Whatever a branch opens it closes again. -/
theorem isNeutral_branchCode (level : Text) (f : ResolvedSignature) :
    TokenKind.IsNeutral ((branchCode level f).map Prod.fst) := by
  have hquoted (t : Text) : TokenKind.IsNeutral ([quoted t].map Prod.fst) :=
    (by decide : TokenKind.IsNeutral [.string])
  have hcompare := isNeutral_call "compare_string" (List.forall_mem_cons.mpr
    ⟨isNeutral_word functionName, List.forall_mem_singleton.mpr (hquoted (lower f.name))⟩)
  have hcondition := isNeutral_call "if" (List.forall_mem_singleton.mpr hcompare)
  have hlog := isNeutral_printCode level (hquoted ("RPC: " ++ f.name ++ "()"))
  have hcall := isNeutral_call f.name (isNeutral_argumentsCode 1 f.parameters)
  have hbody := (((((isNeutral_declareCode f.returns).append hlog).append
    (isNeutral_assignCode f.returns)).append hcall).append
    (by decide : TokenKind.IsNeutral ([sign ';'].map Prod.fst))).append
    (isNeutral_logReturnCode level f.returns)
  have hbraces : TokenKind.IsNeutral
      ([sign '\x7b'].map Prod.fst ++ [sign '\x7d'].map Prod.fst) := by decide
  simpa only [branchCode, List.map_append, List.append_assoc] using
    hcondition.append (hbraces.insert hbody)

theorem isNeutral_branch {s : DispatchSettings} (hlevel : s.logLevel.isIdentifier = true)
    (hf : f.IsWritable) : Text.IsNeutral (branch s f) :=
  (leads_branch hlevel hf).isNeutral (isNeutral_branchCode s.logLevel f)

end Render

end RpcDispatch
