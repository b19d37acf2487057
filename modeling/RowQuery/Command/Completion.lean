import RowQuery.Command.Invocation

/-!
# Completions for shells

A script for each shell that offers the commands of the program and the names of its options. The
words are those of the topics, so a script never offers a word that the program refuses everywhere.

The scripts of the program are made by a library and are much longer. These stand in for them: only
that there is one for each shell, and that it goes to standard output, follows the program.
-/

namespace RowQuery

/-- All topics. -/
def Topic.all : List Topic :=
  [program, tokens, parse, compile, query, config, configShow, configPath, configInit,
    completions]

/-- The words to offer. -/
def completionWords : List String :=
  (Topic.all.flatMap fun t =>
    t.commands.map (·.1) ++ t.switches.map fun o => "--" ++ o.name).eraseDups

/-- A script that completes command lines in a shell, in place of the library's own. -/
def completionScript (shell : Shell) : String :=
  let words := " ".intercalate completionWords
  match shell with
  | .bash => "complete -W \"" ++ words ++ "\" qf\n"
  | .zsh => "#compdef qf\ncompadd -- " ++ words ++ "\n"
  | .fish => "complete -c qf -a \"" ++ words ++ "\"\n"
  | .powershell =>
    "Register-ArgumentCompleter -Native -CommandName qf -ScriptBlock \x7b \"" ++ words ++
      "\" -split ' ' \x7d\n"

end RowQuery
