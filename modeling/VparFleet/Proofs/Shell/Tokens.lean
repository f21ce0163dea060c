import VparFleet.Command

/-!
# Tokens of the shell

A shell reads a command line character by character. Blanks end words, and the longest operator is
taken. Between single quotes every character is itself, and so is a character after a backslash.
Whatever else means more than itself, as expansions, patterns, comments and double quotes do, is not
read here.

* `tokens?`: the tokens of a text, if it can be read.
* `Reads`: what is read from a part of a text, with one lemma for each kind of part.
* `tokens?_of_reads`: a text is read part by part.
-/

namespace VparFleet.Shell

/-! ## Characters -/

/-- The operators. The first characters of an operator are an operator too. -/
def operators : List (List Char) :=
  ["&", "&&", "(", ")", ";", ";;", "|", "||", "\n", "<", "<<", "<<-", "<&", "<>", ">", ">>", ">&",
    ">|"].map String.toList

/-- Whether an operator begins with a character. -/
def beginsOperator (c : Char) : Bool :=
  operators.contains [c]

/-- The blanks. -/
def isBlank (c : Char) : Bool :=
  c = ' ' || c = '\t'

/-- The characters that are not read: they begin an expansion, a pattern, a comment, an assignment,
the name of a job or a text in double quotes. -/
def isUnread (c : Char) : Bool :=
  "\"$`*?[#~=%".toList.contains c

/-- The character that no text of a shell has. -/
def nul : Char := Char.ofNat 0

/-- Whether a character means more than itself where it is not quoted. -/
def isSpecial (c : Char) : Bool :=
  c = nul || c = '\'' || c = '\\' || beginsOperator c || isBlank c || isUnread c

/-! ## Tokens -/

/-- A token without its quotes. -/
inductive Token where
  | word (text : List Char)
  /-- The number of a file right before a redirection. -/
  | number (digits : List Char)
  | operator (text : List Char)
  deriving DecidableEq

/-- The token that has been begun. -/
inductive Begun where
  | nothing
  /-- A word, and whether a part of it was quoted. -/
  | word (text : List Char) (quoted : Bool)
  | operator (text : List Char)

namespace Begun

/-- The token, if there is one. -/
def tokens : Begun → List Token
  | nothing => []
  | word text _ => [.word text]
  | operator text => [.operator text]

/-- Goes on with characters of a word; an operator ends before them. -/
def addText (text : List Char) (quoted : Bool) : Begun → List Token × Begun
  | word before quoted' => ([], .word (before ++ text) (quoted' || quoted))
  | begun => (begun.tokens, .word text quoted)

/-- Goes on with a character of an operator, which makes an operator longer or ends the token. Bare
digits right before a redirection are no word. -/
def addOperator (c : Char) : Begun → List Token × Begun
  | operator text =>
    if operators.contains (text ++ [c]) then ([], .operator (text ++ [c]))
    else ([.operator text], .operator [c])
  | word text false =>
    if (c = '<' || c = '>') && text.all Char.isDigit then ([.number text], .operator [c])
    else ([.word text], .operator [c])
  | begun => (begun.tokens, .operator [c])

end Begun

/-- How the next character is taken. -/
inductive Mode where
  | bare
  /-- Between single quotes. -/
  | quoted
  /-- After a backslash. -/
  | escaped
  deriving DecidableEq

/-- How far a text has been read. -/
structure State where
  begun : Begun
  mode : Mode

/-- No token has been begun. -/
def start : State := ⟨.nothing, .bare⟩

/-- Goes on in a mode after some tokens have come to an end. -/
def goOn (mode : Mode) (result : List Token × Begun) : List Token × State :=
  (result.1, ⟨result.2, mode⟩)

/-- Reads one character that is not quoted. -/
def readBare (begun : Begun) (c : Char) : Option (List Token × State) :=
  if c = '\'' then some (goOn .quoted (begun.addText [] true))
  else if c = '\\' then some ([], ⟨begun, .escaped⟩)
  else if beginsOperator c then some (goOn .bare (begun.addOperator c))
  else if isBlank c then some (begun.tokens, start)
  else if isUnread c then none
  else some (goOn .bare (begun.addText [c] false))

/-- Reads one character: the tokens that end before it, and how to go on. -/
def readChar (state : State) (c : Char) : Option (List Token × State) :=
  if c = nul then none else
  match state.mode with
  | .bare => readBare state.begun c
  | .quoted =>
    if c = '\'' then some ([], ⟨state.begun, .bare⟩)
    else some (goOn .quoted (state.begun.addText [c] true))
  | .escaped =>
    -- an escaped line feed joins two lines
    if c = '\n' then some ([], ⟨state.begun, .bare⟩)
    else some (goOn .bare (state.begun.addText [c] true))

/-- Reads characters. -/
def readChars (state : State) : List Char → Option (List Token × State)
  | [] => some ([], state)
  | c :: cs => do
    let (tokens, next) ← readChar state c
    let (more, last) ← readChars next cs
    return (tokens ++ more, last)

/-- The tokens of a text. Quotes must be closed. -/
def tokens? (text : List Char) : Option (List Token) := do
  let (tokens, last) ← readChars start text
  if last.mode = .bare then return tokens ++ last.begun.tokens else none

/-! ## Reading part by part -/

/-- What is read from a part of a text: the tokens that end in it, and how to go on. -/
def Reads (state : State) (text : List Char) (tokens : List Token) (next : State) : Prop :=
  readChars state text = some (tokens, next)

variable {state next last : State} {c : Char} {text more : List Char} {tokens tokens' : List Token}

/-- A text is read one character after the other. -/
theorem Reads.cons (h : readChar state c = some (tokens, next))
    (h' : Reads next more tokens' last) : Reads state (c :: more) (tokens ++ tokens') last := by
  have hrest : readChars next more = some (tokens', last) := h'
  simp only [Reads, readChars, h, Option.bind_eq_bind, Option.bind_some, hrest]
  rfl

/-- And so part by part. -/
theorem Reads.append (h : Reads state text tokens next) (h' : Reads next more tokens' last) :
    Reads state (text ++ more) (tokens ++ tokens') last := by
  induction text generalizing state tokens with
  | nil =>
    obtain ⟨rfl, rfl⟩ := Prod.mk.inj (Option.some.inj h)
    exact h'
  | cons c text ih =>
    rw [Reads, readChars, Option.bind_eq_bind, Option.bind_eq_some_iff] at h
    obtain ⟨⟨first, between⟩, hfirst, hrest⟩ := h
    obtain ⟨⟨later, last⟩, hlater, heq⟩ := Option.bind_eq_some_iff.mp hrest
    obtain ⟨rfl, rfl⟩ := Prod.mk.inj (Option.some.inj heq)
    -- the tokens of the first character come before those of the rest
    rw [List.cons_append, List.append_assoc]
    exact .cons hfirst (ih hlater)

/-- A text is read part by part, and ends outside of quotes. -/
theorem tokens?_of_reads {begun : Begun} (h : Reads start text tokens ⟨begun, .bare⟩) :
    tokens? text = some (tokens ++ begun.tokens) := by
  rw [Reads] at h
  rw [tokens?, h]
  rfl

example : tokens? "echo 'it'\\''s' a\\ b 2>&1&&true".toList = some [.word "echo".toList,
    .word "it's".toList, .word "a b".toList, .number "2".toList, .operator ">&".toList,
    .word "1".toList, .operator "&&".toList, .word "true".toList] := by
  decide

/-- A character of a bare word. -/
theorem readChar_of_bare {begun : Begun} (h : isSpecial c = false) :
    readChar ⟨begun, .bare⟩ c = some (goOn .bare (begun.addText [c] false)) := by
  simp only [isSpecial, Bool.or_eq_false_iff, decide_eq_false_iff_not] at h
  obtain ⟨⟨⟨⟨⟨hnul, hquote⟩, hescape⟩, hoperator⟩, hblank⟩, hunread⟩ := h
  simp [readChar, readBare, hnul, hquote, hescape, hoperator, hblank, hunread]

/-- The characters that a bare word goes on with. -/
theorem reads_bare {before : List Char} {quoted : Bool} (h : ∀ c ∈ text, isSpecial c = false) :
    Reads ⟨.word before quoted, .bare⟩ text [] ⟨.word (before ++ text) quoted, .bare⟩ := by
  induction text generalizing before with
  | nil => rw [List.append_nil]; rfl
  | cons c text ih =>
    obtain ⟨hc, htext⟩ := List.forall_mem_cons.mp h
    -- one character goes on with the word
    have hread : readChar ⟨.word before quoted, .bare⟩ c
        = some ([], ⟨.word (before ++ [c]) quoted, .bare⟩) := by
      simp [readChar_of_bare hc, Begun.addText, goOn]
    have hrest : Reads ⟨.word (before ++ [c]) quoted, .bare⟩ text []
        ⟨.word (before ++ [c] ++ text) quoted, .bare⟩ := ih htext
    rw [List.append_assoc, List.singleton_append] at hrest
    exact .cons hread hrest

/-- A bare word where no token has been begun. -/
theorem reads_bareWord (hne : text ≠ []) (h : ∀ c ∈ text, isSpecial c = false) :
    Reads start text [] ⟨.word text false, .bare⟩ := by
  obtain ⟨c, rest, rfl⟩ := List.exists_cons_of_ne_nil hne
  have hfirst : Reads start [c] [] ⟨.word [c] false, .bare⟩ := by
    simp [Reads, readChars, start, readChar_of_bare (h c List.mem_cons_self), Begun.addText,
      Begun.tokens, goOn]
  exact hfirst.append (reads_bare fun d hd => h d (List.mem_cons_of_mem c hd))

/-- Text between single quotes, with each quote written outside of them. -/
theorem reads_quoted {before : List Char} (h : nul ∉ text) :
    Reads ⟨.word before true, .quoted⟩ (text.flatMap Command.quoteChar) []
      ⟨.word (before ++ text) true, .quoted⟩ := by
  induction text generalizing before with
  | nil => rw [List.append_nil]; rfl
  | cons c text ih =>
    obtain ⟨hc, htext⟩ : nul ≠ c ∧ nul ∉ text := List.ne_and_not_mem_of_not_mem_cons h
    have hchar : Reads ⟨.word before true, .quoted⟩ (Command.quoteChar c) []
        ⟨.word (before ++ [c]) true, .quoted⟩ := by
      by_cases hquote : c = '\''
      · -- out of the quotes, an escaped quote, and into the quotes again
        subst hquote
        simp [Reads, readChars, readChar, readBare, Command.quoteChar, Begun.addText, goOn, nul]
      · simp [Reads, readChars, readChar, Command.quoteChar, hquote, hc.symm, Begun.addText, goOn]
    have hrest : Reads ⟨.word (before ++ [c]) true, .quoted⟩ (text.flatMap Command.quoteChar) []
        ⟨.word (before ++ [c] ++ text) true, .quoted⟩ := ih htext
    rw [List.append_assoc, List.singleton_append] at hrest
    exact hchar.append hrest

/-- A text between single quotes is a word. -/
theorem reads_singleQuote {line : String} (h : nul ∉ line.toList) :
    Reads start (Command.singleQuote line).toList [] ⟨.word line.toList true, .bare⟩ := by
  have hopening : Reads start ['\''] [] ⟨.word [] true, .quoted⟩ := rfl
  have hclosing : Reads ⟨.word line.toList true, .quoted⟩ ['\''] []
      ⟨.word line.toList true, .bare⟩ := rfl
  rw [Command.singleQuote, String.toList_ofList]
  exact (hopening.append (reads_quoted h)).append hclosing

end VparFleet.Shell
