import VparFleet.Proofs.Shell.Tokens

/-!
# Appended lines

Lines go through a shell as they are. A command that appends lines to a file is read as one `echo`
for each of them, joined by `&&`, whose only argument is the line.

* `commands?`: the simple commands of a text that are joined by `&&`.
* `reads_appendLine`: what is read from the command that appends one line.
* `tokens?_appendLines`: the tokens of the command that appends lines.
* `commands?_of_tokens?`: commands that are joined by `&&` are taken apart at it.
* `appendLines_survive`: the lines of a file, of a boot table entry and of a client's configuration.
-/

namespace VparFleet.Shell

open Command

/-! ## Simple commands -/

/-- A simple command. -/
structure SimpleCommand where
  words : List String
  /-- The files that its output is appended to. -/
  appendsTo : List String
  deriving DecidableEq

/-- The words and redirections of a command. No other redirection than appending is read. -/
def wordsAndFiles? : List Token → Option SimpleCommand
  | [] => some ⟨[], []⟩
  | .word text :: rest => do
    let command ← wordsAndFiles? rest
    return { command with words := String.ofList text :: command.words }
  | .operator text :: .word file :: rest =>
    if text = ">>".toList then do
      let command ← wordsAndFiles? rest
      return { command with appendsTo := String.ofList file :: command.appendsTo }
    else none
  | _ => none

/-- The words that begin a compound command where they are the first of a command. -/
def reserved : List String :=
  ["!", "\x7b", "\x7d", "case", "do", "done", "elif", "else", "esac", "fi", "for", "if", "in",
    "then", "until", "while"]

/-- The simple command of some tokens. There is one token at least, and the first word is not
reserved. -/
def simpleCommand? (tokens : List Token) : Option SimpleCommand := do
  let command ← wordsAndFiles? tokens
  if tokens = [] ∨ command.words.head?.any reserved.contains then none else return command

/-- The operator between two commands of which the second runs if the first has succeeded. -/
def andIf : Token := .operator "&&".toList

/-- The simple commands of a text that are joined by `&&`, if it is made of nothing else. -/
def commands? (text : String) : Option (List SimpleCommand) := do
  let tokens ← tokens? text.toList
  if tokens = [] then return [] else (tokens.splitOn andIf).mapM simpleCommand?

/-! ## Appending -/

/-- A path of characters that mean no more than themselves. -/
def IsPath (file : String) : Prop :=
  file ≠ "" ∧ ∀ c ∈ file.toList, isSpecial c = false

instance (file : String) : Decidable (IsPath file) :=
  decidable_of_iff (file ≠ "" ∧ file.toList.any isSpecial = false) (by simp [IsPath])

/-- A text that can be given to a shell. -/
def IsText (text : String) : Prop :=
  nul ∉ text.toList

instance (text : String) : Decidable (IsText text) :=
  inferInstanceAs (Decidable (_ ∉ _))

@[simp] theorem isText_append {text text' : String} :
    IsText (text ++ text') ↔ IsText text ∧ IsText text' := by
  rw [IsText, String.toList_append, List.mem_append, not_or]
  rfl

/-- The tokens that append one line to a file. -/
def appending (file line : String) : List Token :=
  [.word "echo".toList, .word line.toList, .operator ">>".toList, .word file.toList]

/-- The command that appends one line to a file. -/
def echoing (file line : String) : SimpleCommand :=
  ⟨["echo", line], [file]⟩

variable {file line : String} {lines : List String}

/-- The last token of the command is begun when it has been read. -/
theorem reads_appendLine (hf : IsPath file) (hl : IsText line) :
    Reads start (appendLine file line).toList
      [.word "echo".toList, .word line.toList, .operator ">>".toList]
      ⟨.word file.toList false, .bare⟩ := by
  have hecho : Reads start "echo ".toList [.word "echo".toList] start := rfl
  have hredirect : Reads ⟨.word line.toList true, .bare⟩ " >> ".toList
      [.word line.toList, .operator ">>".toList] start := rfl
  have hfile : Reads start file.toList [] ⟨.word file.toList false, .bare⟩ :=
    reads_bareWord (by simpa using hf.1) hf.2
  have htext : (appendLine file line).toList
      = "echo ".toList ++ (singleQuote line).toList ++ " >> ".toList ++ file.toList := by
    simp only [appendLine, String.toList_append, toString]
  -- the word `echo`, the line in quotes, the redirection, and the path
  rw [htext]
  exact ((hecho.append (reads_singleQuote hl)).append hredirect).append hfile

/-- One line and more of them: all tokens but the last have come to an end. -/
theorem reads_appendLines (hf : IsPath file) (hl : ∀ other ∈ line :: lines, IsText other) :
    ∃ tokens, Reads start (appendLines file (line :: lines)).toList tokens
        ⟨.word file.toList false, .bare⟩ ∧
      tokens ++ [.word file.toList]
        = [andIf].intercalate ((line :: lines).map (appending file)) := by
  induction lines generalizing line with
  | nil =>
    have hone := reads_appendLine hf (hl line List.mem_cons_self)
    exact ⟨_, by rwa [appendLines, List.map_singleton, String.intercalate_singleton], rfl⟩
  | cons next lines ih =>
    obtain ⟨hline, hlines⟩ := List.forall_mem_cons.mp hl
    -- the first line, then the operator that joins it to the rest
    obtain ⟨tokens, hrest, heq⟩ := ih hlines
    have hand : Reads ⟨.word file.toList false, .bare⟩ " && ".toList [.word file.toList, andIf]
        start := rfl
    have htext : (appendLines file (line :: next :: lines)).toList = (appendLine file line).toList
        ++ " && ".toList ++ (appendLines file (next :: lines)).toList := by
      simp only [appendLines, List.map_cons, String.intercalate_cons_cons, String.toList_append]
    rw [htext]
    refine ⟨_, ((reads_appendLine hf hline).append hand).append hrest, ?_⟩
    rw [List.append_assoc, heq, List.map_cons, List.map_cons, List.map_cons,
      List.intercalate_cons_cons]
    rfl

/-- Each line becomes four tokens, and two lines are joined by an operator. -/
theorem tokens?_appendLines (hf : IsPath file) (hl : ∀ line ∈ lines, IsText line) :
    tokens? (appendLines file lines).toList
      = some ([andIf].intercalate (lines.map (appending file))) := by
  cases lines with
  | nil => rfl
  | cons line lines =>
    obtain ⟨tokens, hread, heq⟩ := reads_appendLines hf hl
    rw [tokens?_of_reads hread, ← heq]
    rfl

/-! ## Commands -/

/-- Commands that are joined by `&&` are taken apart at it. -/
theorem commands?_of_tokens? {text : String} {parts : List (List Token)}
    {commands : List SimpleCommand}
    (h : tokens? text.toList = some ([andIf].intercalate parts))
    (hparts : ∀ part ∈ parts, andIf ∉ part)
    (hcommands : parts.mapM simpleCommand? = some commands) : commands? text = some commands := by
  rw [commands?, h, Option.bind_eq_bind, Option.bind_some]
  cases parts with
  | nil =>
    rw [← hcommands]
    rfl
  | cons part parts =>
    have hsplit : ([andIf].intercalate (part :: parts)).splitOn andIf = part :: parts :=
      List.splitOn_intercalate andIf hparts (List.cons_ne_nil part parts)
    by_cases hempty : [andIf].intercalate (part :: parts) = []
    · -- no tokens would be one part without a token, which is no command
      rw [hempty] at hsplit
      rw [← hsplit] at hcommands
      exact nomatch hcommands
    · rw [if_neg hempty, hsplit]
      exact hcommands

example : commands? "mkdir /etc/d && touch /etc/d/config >> '/tmp/my log'" = some
    [⟨["mkdir", "/etc/d"], []⟩, ⟨["touch", "/etc/d/config"], ["/tmp/my log"]⟩] := by
  decide

/-- Four tokens of this kind are one command. -/
theorem simpleCommand?_appending :
    simpleCommand? (appending file line) = some (echoing file line) := by
  have hread : wordsAndFiles? (appending file line) = some (echoing file line) := by
    simp [appending, wordsAndFiles?, echoing]
  -- `echo` is no reserved word
  have hfirst : ((echoing file line).words.head?.any reserved.contains) = false := rfl
  rw [simpleCommand?, hread, Option.bind_eq_bind, Option.bind_some, hfirst]
  rfl

/-- Each line is the argument of one `echo`, in order, and goes to the file. -/
theorem commands?_appendLines (hf : IsPath file) (hl : ∀ line ∈ lines, IsText line) :
    commands? (appendLines file lines) = some (lines.map (echoing file)) := by
  -- the operator that joins commands is in none of them
  have hparts : ∀ part ∈ lines.map (appending file), andIf ∉ part := by
    simp [appending, andIf]
  have heach : simpleCommand? ∘ appending file = pure ∘ echoing file :=
    funext fun _ => simpleCommand?_appending
  have hcommands : (lines.map (appending file)).mapM simpleCommand?
      = some (lines.map (echoing file)) := by
    rw [List.mapM_map, heach]
    exact List.mapM_pure
  exact commands?_of_tokens? (tokens?_appendLines hf hl) hparts hcommands

/-- The lines of a boot table entry are texts if its parts are. -/
theorem isText_bootEntry {entry : BootEntry} {bootFile : String}
    (h : ∀ text ∈ [entry.name, entry.mac, entry.ip, entry.gateway, entry.netmask, bootFile],
      IsText text) : ∀ line ∈ entry.lines bootFile, IsText line := by
  simp only [List.forall_mem_cons] at h
  simp only [BootEntry.lines, List.forall_mem_cons, toString, isText_append, h]
  decide

/-- The install directives are texts if what is written into them is. -/
theorem isText_clientLines {server : ServerSettings} {name image : String}
    (h : ∀ text ∈ [name, image, server.keyboard, server.passwordHash, server.rootDisk],
      IsText text) : ∀ line ∈ clientLines server name image, IsText line := by
  simp only [List.forall_mem_cons] at h
  simp only [clientLines, List.forall_mem_cons, toString, isText_append, h]
  decide

/-- A shell reads the command that appends lines to a file as one `echo` for each line, in order and
joined by `&&`, with the line as it is for an argument and the file for its output: nothing in a
line is an operator, a blank or a quote to it. So a boot table entry and the configuration of a
client are seven lines each, all for one file, whatever is written into them. -/
theorem appendLines_survive :
    (∀ file lines, IsPath file → (∀ line ∈ lines, IsText line) →
      tokens? (appendLines file lines).toList
          = some ([andIf].intercalate (lines.map (appending file))) ∧
        commands? (appendLines file lines) = some (lines.map (echoing file))) ∧
    (∀ (server : ServerSettings) (entry : BootEntry), IsPath server.bootTable →
      (∀ text ∈ [entry.name, entry.mac, entry.ip, entry.gateway, entry.netmask, server.bootFile],
        IsText text) →
      commands? (appendBootEntry server entry)
          = some ((entry.lines server.bootFile).map (echoing server.bootTable)) ∧
        (entry.lines server.bootFile).length = 7) ∧
    ∀ (server : ServerSettings) (mac name image : String), IsPath (clientFile server mac) →
      (∀ text ∈ [name, image, server.keyboard, server.passwordHash, server.rootDisk],
        IsText text) →
      commands? (writeClientConfig server mac name image)
          = some ((clientLines server name image).map (echoing (clientFile server mac))) ∧
        (clientLines server name image).length = 7 := by
  refine ⟨fun file lines hfile hlines => ?_, fun server entry htable htexts => ?_,
    fun server mac name image hfile htexts => ?_⟩
  · exact ⟨tokens?_appendLines hfile hlines, commands?_appendLines hfile hlines⟩
  · exact ⟨commands?_appendLines htable (isText_bootEntry htexts), rfl⟩
  · exact ⟨commands?_appendLines hfile (isText_clientLines htexts), rfl⟩

/-- A server whose texts are as hostile as a shell allows. -/
def Sample.server : ServerSettings where
  address := "10.0.0.5"
  bootFile := "/boot' && reboot; echo '\\"
  bootTable := "/etc/bootptab"
  clientsDir := "/var/opt/ignite/clients"
  keyboard := "a\n\tb"
  passwordHash := "'\\'' >> /etc/passwd"
  rootDisk := "$(reboot) `reboot` \\\n"
  profile := "default"

/-- Hostile lines come through as they are, for any file and in either command. -/
theorem appendLines_survive_sample :
    (∀ line ∈ ["it's\n", "'\\'' && x", "\\"], IsText line) ∧
    commands? (appendLines "/tmp/log" ["it's\n", "'\\'' && x", "\\"])
      = some [⟨["echo", "it's\n"], ["/tmp/log"]⟩, ⟨["echo", "'\\'' && x"], ["/tmp/log"]⟩,
        ⟨["echo", "\\"], ["/tmp/log"]⟩] ∧
    commands? (appendBootEntry Sample.server ⟨"vp\t'", "0x0", "10.0.1.5", "10.0.1.1", "255.0.0.0"⟩)
      = some ((BootEntry.lines ⟨"vp\t'", "0x0", "10.0.1.5", "10.0.1.1", "255.0.0.0"⟩
        Sample.server.bootFile).map (echoing "/etc/bootptab")) ∧
    commands? (writeClientConfig Sample.server "0x0" "vp > x" "'; ls '")
      = some ((clientLines Sample.server "vp > x" "'; ls '").map
        (echoing "/var/opt/ignite/clients/0x0/config")) := by
  obtain ⟨hlines, hentry, hclient⟩ := appendLines_survive
  refine ⟨by decide, ?_, ?_, ?_⟩
  · exact (hlines "/tmp/log" _ (by decide) (by decide)).2
  · exact (hentry Sample.server _ (by decide) (by decide)).1
  · exact (hclient Sample.server "0x0" "vp > x" "'; ls '" (by decide) (by decide)).1

end VparFleet.Shell
