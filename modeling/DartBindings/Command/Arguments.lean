/-!
Command lines.

A command line names a command, with options and positional words in any order.  An option is spelled
with two dashes and its name, with its value behind an equals sign or in the next word, or with one
dash and a letter, where letters without values may be joined and a value may follow directly.  Two
dashes alone end the options.  Every option but verbosity may be given once.  The words are judged
from left to right: the first one that is refused, or that asks for help, decides.

Main exports: Refusal, Words, Invocation, Invocation.ofArguments
-/

namespace DartBindings.Command

/-- When output is colored. -/
inductive Color where
  | auto
  | always
  | never
deriving Repr, DecidableEq, Inhabited

namespace Color

/-- The choice that a word denotes. -/
def ofWord? (word : String) : Option Color :=
  if word = "auto" then some .auto
  else if word = "always" then some .always
  else if word = "never" then some .never
  else none

/-- Whether output is colored, given whether it goes to a terminal. -/
def applies (terminal : Bool) : Color → Bool
  | .auto => terminal
  | .always => true
  | .never => false

end Color

/-- The options of all commands. -/
inductive OptionName where
  | outDir
  | toStdout
  | color
  | strict
  | raw
  | compact
  | spans
  | source
  | verbose
  | help
deriving Repr, DecidableEq, Inhabited

namespace OptionName

/-- Whether the option has a value. -/
def takesValue : OptionName → Bool
  | .outDir | .color | .source => true
  | .toStdout | .strict | .raw | .compact | .spans | .verbose | .help => false

/-- Whether a value suits the option: a path is not empty, and a choice is one of those offered. -/
def suits : OptionName → String → Bool
  | .outDir, value => !value.isEmpty
  | .color, value => (Color.ofWord? value).isSome
  | _, _ => true

/-- The name behind two dashes. -/
def long? : OptionName → Option String
  | .outDir => some "out-dir"
  | .toStdout => some "stdout"
  | .color => some "color"
  | .strict => some "strict"
  | .raw => some "raw"
  | .compact => some "compact"
  | .spans => some "spans"
  | .source => some "source"
  | .verbose => none
  | .help => some "help"

/-- The letter behind one dash. -/
def short? : OptionName → Option Char
  | .outDir => some 'o'
  | .source => some 's'
  | .verbose => some 'v'
  | .help => some 'h'
  | .toStdout | .color | .strict | .raw | .compact | .spans => none

end OptionName

/-- The commands. -/
inductive CommandName where
  | generate
  | check
  | dump
  | tree
deriving Repr, DecidableEq, Inhabited

namespace CommandName

/-- The command of a word. -/
def ofWord? (word : String) : Option CommandName :=
  if word = "generate" then some .generate
  else if word = "check" then some .check
  else if word = "dump" then some .dump
  else if word = "tree" then some .tree
  else none

/-- The options that a command has. -/
def options : CommandName → List OptionName
  | .generate => [.outDir, .toStdout, .color, .verbose, .help]
  | .check => [.strict, .color, .verbose, .help]
  | .dump => [.raw, .compact, .verbose, .help]
  | .tree => [.source, .raw, .spans, .verbose, .help]

/-- Whether a positional word may follow others.  All of them are paths and not empty, and there is
one tree to show at most. -/
def takes (command : CommandName) (before : List String) (word : String) : Bool :=
  !word.isEmpty && (command != .tree || before.isEmpty)

end CommandName

/-- Why a command line is not carried out. -/
inductive Refusal where
  | badUsage
  | helpWanted
deriving Repr, DecidableEq, Inhabited

/-- The words of a command line: positional ones in order, and options with their values. -/
structure Words where
  positionals : List String := []
  options : List (OptionName × String) := []
deriving Repr, Inhabited

namespace Words

/-- Whether an option was given. -/
def has (words : Words) (option : OptionName) : Bool :=
  words.options.any fun given => given.1 == option

/-- The value of an option. -/
def value? (words : Words) (option : OptionName) : Option String :=
  words.options.lookup option

/-- The words with one more option. -/
def give (words : Words) (option : OptionName) (value : String) : Except Refusal Words :=
  if option = .help then .error .helpWanted
  else if words.has option && option != .verbose then .error .badUsage
  else if option.suits value then .ok { words with options := words.options ++ [(option, value)] }
  else .error .badUsage

/-- The words with one more positional word. -/
def place (command : CommandName) (words : Words) (word : String) : Except Refusal Words :=
  if command.takes words.positionals word then
    .ok { words with positionals := words.positionals ++ [word] }
  else .error .badUsage

/-- Read the letters behind one dash.  The last of them may leave its value to the next word. -/
def letters (allowed : List OptionName) (words : Words) :
    List Char → Except Refusal (Words × Option OptionName)
  | [] => .ok (words, none)
  | letter :: rest =>
      match allowed.find? fun option => option.short? == some letter with
      | none => .error .badUsage
      | some option =>
          if option.takesValue then
            match rest with
            | [] => .ok (words, some option)
            | '=' :: value => (words.give option (String.ofList value)).map fun words => (words, none)
            | value => (words.give option (String.ofList value)).map fun words => (words, none)
          else
            match words.give option "" with
            | .error refusal => .error refusal
            | .ok words => letters allowed words rest

/-- Read what stands behind two dashes.  It may leave its value to the next word. -/
def longOption (allowed : List OptionName) (words : Words) (text : List Char) :
    Except Refusal (Words × Option OptionName) :=
  let name := String.ofList (text.takeWhile (· != '='))
  match allowed.find? fun option => option.long? == some name with
  | none => .error .badUsage
  | some option =>
      match text.dropWhile (· != '=') with
      | [] =>
          if option.takesValue then .ok (words, some option)
          else (words.give option "").map fun words => (words, none)
      | _ :: value =>
          if option.takesValue then
            (words.give option (String.ofList value)).map fun words => (words, none)
          else .error .badUsage

/-- Whether a word is an option and not a value. -/
def isOption (word : List Char) : Bool :=
  word.head? == some '-' && word != ['-']

/-- Read a word that is an option. -/
def option (allowed : List OptionName) (words : Words) :
    List Char → Except Refusal (Words × Option OptionName)
  | '-' :: '-' :: text => longOption allowed words text
  | '-' :: text => letters allowed words text
  | _ => .error .badUsage

/-- Read the words of a command, given the option that waits for its value. -/
def read (command : CommandName) (words : Words) (waiting : Option OptionName) :
    List String → Except Refusal Words
  | [] => if waiting.isSome then .error .badUsage else .ok words
  | word :: rest =>
      match waiting with
      | some option =>
          if isOption word.toList then .error .badUsage
          else
            match words.give option word with
            | .error refusal => .error refusal
            | .ok words => read command words none rest
      | none =>
          if word = "--" then rest.foldlM (place command) words
          else if isOption word.toList then
            match option command.options words word.toList with
            | .error refusal => .error refusal
            | .ok (words, waiting) => read command words waiting rest
          else
            match words.place command word with
            | .error refusal => .error refusal
            | .ok words => read command words none rest

end Words

/-- What a command line asks for. -/
inductive Invocation where
  | generate (config : String) (files : List String) (outDir : Option String) (toStdout : Bool)
      (color : Color)
  | check (config : String) (files : List String) (strict : Bool) (color : Color)
  | dump (config : String) (files : List String) (raw compact : Bool)
  | tree (file text : Option String) (tokens places : Bool)
deriving Repr, Inhabited

namespace Invocation

/-- The choice of color among options. -/
def colorOf (words : Words) : Color :=
  ((words.value? .color).bind Color.ofWord?).getD .auto

/-- The invocation of a command with its words.  All commands but the one for trees need a
configuration, which the files follow. -/
def ofWords (words : Words) (command : CommandName) : Except Refusal Invocation :=
  match command, words.positionals with
  | .generate, config :: files =>
      .ok (.generate config files (words.value? .outDir) (words.has .toStdout) (colorOf words))
  | .check, config :: files => .ok (.check config files (words.has .strict) (colorOf words))
  | .dump, config :: files => .ok (.dump config files (words.has .raw) (words.has .compact))
  | .tree, files =>
      .ok (.tree files.head? (words.value? .source) (words.has .raw) (words.has .spans))
  | _, [] => .error .badUsage

/-- What the words behind the word for help denote: help on the whole or on one command, of which the
word for help is itself one. -/
def helpRefusal : List String → Refusal
  | [] => .helpWanted
  | [word] =>
      if word = "help" || (CommandName.ofWord? word).isSome then .helpWanted else .badUsage
  | _ => .badUsage

/-- The invocation that a command line denotes.  Verbosity may be given in front of the command. -/
def ofArguments : List String → Except Refusal Invocation
  | [] => .error .badUsage
  | word :: rest =>
      match CommandName.ofWord? word with
      | some command => do
          let words ← Words.read command {} none rest
          ofWords words command
      | none =>
          if word = "help" then .error (helpRefusal rest)
          else if word = "--" then .error .badUsage
          else if Words.isOption word.toList then do
            let _ ← Words.option [.verbose, .help] {} word.toList
            ofArguments rest
          else .error .badUsage

end Invocation

end DartBindings.Command
