import Scopelight.Grammar.Descriptor

/-!
# The grammar of Dogma

Dogma describes text and binary formats by rules in a style like that of BNF. Its grammar is always
at hand.
-/

namespace Scopelight.Dogma

/-- An include of a repository entry. -/
def entry (name : String) : RuleSpec := { RuleSpec.empty with reference := some ("#" ++ name) }

def group (rules : List RuleSpec) : RuleSpec := { RuleSpec.empty with patterns := some rules }

/-- A rule that gives its match a name. -/
def single (name pattern : String) : RuleSpec :=
  { RuleSpec.empty with name := some name, matchPattern := some pattern }

/-- Names for groups. -/
def captures (names : List (String × String)) : Option (List (String × RuleSpec)) :=
  some (names.map fun (key, name) => (key, { RuleSpec.empty with name := some name }))

/-- A rule that names only the groups of its match. -/
def parts (pattern : String) (names : List (String × String)) : RuleSpec :=
  { RuleSpec.empty with matchPattern := some pattern, captures := captures names }

def functionCall : RuleSpec :=
  { RuleSpec.empty with
    name := some "meta.function-call.dogma"
    beginPattern := some "([[:alpha:]][[:alnum:]_]*)\\s*(\\()"
    beginCaptures := captures [
      ("1", "entity.name.function.dogma"),
      ("2", "punctuation.definition.parameters.begin.bracket.round.dogma")]
    endPattern := some "\\)"
    endCaptures := captures [("0", "punctuation.definition.parameters.end.bracket.round.dogma")]
    patterns := some [
      single "punctuation.separator.arguments.dogma" "(,)",
      entry "expression"] }

def expression : RuleSpec :=
  group [
    entry "operands",
    entry "operators",
    entry "call",
    entry "variable",
    entry "switch",
    entry "line_comment"]

def floatNumber : RuleSpec :=
  single "constant.numeric.dogma"
    ("(?x)(?i) (?:-|\\b) (?: [0-9_]+\\.[0-9_]+(e[+-]?[0-9_]+)? " ++
     "| [0-9_]+(e[+-]?[0-9_]+)? | 0x[0-9a-f_]+\\.[0-9a-f_]+(p[+-]?[0-9_]+)? " ++
     "| 0x[0-9a-f_]+(p[+-]?[0-9_]+)? ) (?!-) \\b")

def hexFloat : RuleSpec :=
  single "constant.numeric.dogma"
    ("(?x)(?i) (?:-|\\b) 0[xX](?: [0-9a-f_]+\\.[0-9a-f_]+(p[+-]?[0-9_]+)? " ++
     "| [0-9a-f_]+(p[+-]?[0-9_]+)? ) (?!-) \\b")

def functionArgsRule : RuleSpec :=
  { RuleSpec.empty with
    name := some "entity.name.rule.dogma"
    beginPattern := some
      ("([[:alpha:]][[:alnum:]_]*)\\s*(\\()\\s*([[:alpha:]][[:alnum:]_]*)\\s*(:)" ++
       "\\s*([[:alpha:]][[:alnum:]_]*)(?:\\s*(,)\\s*([[:alpha:]][[:alnum:]_]*)\\s*(:)" ++
       "\\s*([[:alpha:]][[:alnum:]_]*))*(\\.\\.\\.)?\\s*(\\))\\s*(:)" ++
       "\\s*([[:alpha:]][[:alnum:]_]*)\\s*(=)\\s*")
    beginCaptures := captures [
      ("1", "entity.name.function.macro.dogma"),
      ("10", "punctuation.vararg-ellipses.dogma"),
      ("11", "punctuation.definition.parameters.end.bracket.round.dogma"),
      ("12", "punctuation.separator.dogma"),
      ("13", "storage.type.dogma"),
      ("14", "punctuation.separator.dogma"),
      ("2", "punctuation.definition.parameters.begin.bracket.round.dogma"),
      ("3", "meta.definition.variable.dogma"),
      ("4", "punctuation.separator.dogma"),
      ("5", "storage.type.dogma"),
      ("6", "punctuation.separator.dogma"),
      ("7", "meta.definition.variable.dogma"),
      ("8", "punctuation.separator.dogma"),
      ("9", "storage.type.dogma")]
    endPattern := some "\\s*(;)"
    endCaptures := captures [("1", "punctuation.terminator.dogma")]
    patterns := some [entry "prose"] }

def functionNoargsRule : RuleSpec :=
  { RuleSpec.empty with
    name := some "entity.name.rule.dogma"
    beginPattern := some
      "([[:alpha:]][[:alnum:]_]*)\\s*(:)\\s*([[:alpha:]][[:alnum:]_]*)\\s*(=)\\s*"
    beginCaptures := captures [
      ("1", "entity.name.function.dogma"),
      ("2", "punctuation.separator.dogma"),
      ("3", "storage.type.dogma"),
      ("4", "punctuation.separator.dogma")]
    endPattern := some "\\s*(;)"
    endCaptures := captures [("1", "punctuation.terminator.dogma")]
    patterns := some [entry "prose"] }

def header : RuleSpec :=
  parts "^-\\s+(\\w+)\\s*=(.*)$" [
    ("1", "variable.other.header-name.dogma"),
    ("2", "entity.name.header-value.dogma")]

def identifierLine : RuleSpec :=
  group [{ RuleSpec.empty with
    beginPattern := some "^(dogma_v1)\\s+"
    beginCaptures := captures [("1", "entity.name.signature.dogma")]
    endPattern := some "(?!\\G)"
    patterns := some [single "entity.name.charset.dogma" "[a-zA-Z][a-zA-Z0-9_.+:()-]+"] }]

def integerNumber : RuleSpec :=
  single "constant.numeric.dogma"
    "(?x)(?i) (?:-|\\b) (?: 0[xX][0-9a-f_]* | 0[oO][0-7_]* | 0[bB][01_]* | [0-9_]+ ) (?!-) \\b"

def lineComment : RuleSpec :=
  group [{ RuleSpec.empty with
    beginPattern := some "(^[ \\t]+)?(?=#)"
    beginCaptures := captures [("1", "punctuation.whitespace.comment.leading.dogma")]
    endPattern := some "(?!\\G)"
    patterns := some [{ RuleSpec.empty with
      name := some "comment.line.number-sign.dogma"
      beginPattern := some "#"
      beginCaptures := captures [("0", "punctuation.definition.comment.dogma")]
      endPattern := some "\\n" }] }]

def macroRule : RuleSpec :=
  { RuleSpec.empty with
    name := some "entity.name.rule.dogma"
    beginPattern := some
      ("([[:alpha:]][[:alnum:]_]*)(\\()\\s*([[:alpha:]][[:alnum:]_]*)(?:\\s*(,)" ++
       "\\s*([[:alpha:]][[:alnum:]_]*))*\\s*(\\))\\s*(=)\\s*")
    beginCaptures := captures [
      ("1", "entity.name.function.macro.dogma"),
      ("2", "punctuation.definition.parameters.begin.bracket.round.dogma"),
      ("3", "meta.definition.variable.dogma"),
      ("4", "punctuation.separator.dogma"),
      ("5", "meta.definition.variable.dogma"),
      ("6", "punctuation.definition.parameters.end.bracket.round.dogma"),
      ("7", "punctuation.separator.dogma")]
    endPattern := some "\\s*(;)"
    endCaptures := captures [("1", "punctuation.terminator.dogma")]
    patterns := some [entry "expression"] }

def operands : RuleSpec :=
  group [
    entry "variable",
    entry "integer",
    entry "float",
    entry "float_x",
    entry "string_squote",
    entry "string_dquote"]

def operators : RuleSpec :=
  group [
    single "keyword.operator.comparison.dogma" "(=|!=|<=|>=)",
    single "keyword.operator.logical.dogma" "(&|\\||!)",
    single "keyword.operator.arithmetic.dogma" "(\\+|\\-|\\*|/|%)",
    single "keyword.operator.range.dogma" "(~)"]

def prose : RuleSpec :=
  { RuleSpec.empty with
    name := some "string.prose.dogma"
    beginPattern := some "\"\"\""
    beginCaptures := captures [("0", "punctuation.definition.prose.begin.dogma")]
    endPattern := some "\"\"\""
    endCaptures := captures [("0", "punctuation.definition.prose.end.dogma")]
    patterns := some [entry "string_content"] }

def stringContent : RuleSpec :=
  group [
    single "constant.character.escape.dogma" "\\\\[\\\"\\\\]",
    single "constant.character.unicode.dogma" "\\\\[[0-9a-fA-F]+]",
    single "invalid.illegal.unrecognized-string-escape.dogma" "\\\\."]

def stringDquote : RuleSpec :=
  { RuleSpec.empty with
    name := some "string.quoted.double.dogma"
    beginPattern := some "\""
    beginCaptures := captures [("0", "punctuation.definition.string.begin.dogma")]
    endPattern := some "\""
    endCaptures := captures [("0", "punctuation.definition.string.end.dogma")]
    patterns := some [entry "string_content"] }

def stringSquote : RuleSpec :=
  { RuleSpec.empty with
    name := some "string.quoted.single.dogma"
    beginPattern := some "'"
    beginCaptures := captures [("0", "punctuation.definition.string.begin.dogma")]
    endPattern := some "'"
    endCaptures := captures [("0", "punctuation.definition.string.end.dogma")]
    patterns := some [entry "string_content"] }

def switchBlock : RuleSpec :=
  { RuleSpec.empty with
    name := some "entity.name.switch.dogma"
    beginPattern := some "\\["
    beginCaptures := captures [("0", "entity.name.switch.start.dogma")]
    endPattern := some "\\]"
    endCaptures := captures [("0", "entity.name.switch.end.dogma")]
    patterns := some [
      entry "switch_default_expression",
      entry "switch_branch_condition",
      entry "switch_branch_expression",
      entry "line_comment"] }

def switchBranchCondition : RuleSpec :=
  { RuleSpec.empty with
    name := some "entity.name.switch.condition.dogma"
    beginPattern := some "(?<=[\\[;]\\s*)(?!\\s*\\])"
    endPattern := some "(:)|(?=\\])"
    endCaptures := captures [("1", "punctuation.separator.dogma")]
    patterns := some [entry "operands", entry "operators", entry "line_comment"] }

def switchBranchExpression : RuleSpec :=
  { RuleSpec.empty with
    name := some "entity.name.switch.expression.dogma"
    beginPattern := some "(?<=:\\s*)"
    endPattern := some ";"
    endCaptures := captures [("0", "punctuation.separator.dogma")]
    patterns := some [entry "expression"] }

def switchDefaultExpression : RuleSpec :=
  { RuleSpec.empty with
    name := some "entity.name.switch.expression.dogma"
    beginPattern := some "(:)\\s*"
    beginCaptures := captures [("1", "punctuation.separator.dogma")]
    endPattern := some ";"
    endCaptures := captures [("0", "punctuation.separator.dogma")]
    patterns := some [entry "expression"] }

def symbolRule : RuleSpec :=
  { RuleSpec.empty with
    name := some "entity.name.rule.dogma"
    beginPattern := some "([[:alpha:]][[:alnum:]_]*)\\s*(=)\\s*"
    beginCaptures := captures [
      ("1", "entity.name.function.symbol.dogma"),
      ("2", "punctuation.separator.dogma")]
    endPattern := some "\\s*(;)"
    endCaptures := captures [("1", "punctuation.terminator.dogma")]
    patterns := some [entry "prose", entry "expression"] }

def variableName : RuleSpec :=
  single "variable.parameter.dogma" "([[:alpha:]][[:alnum:]_]*)\\b(?!\\()"

/-- All named rules, by name. -/
def repository : List (String × RuleSpec) := [
  ("call", functionCall),
  ("expression", expression),
  ("float", floatNumber),
  ("float_x", hexFloat),
  ("function_args_rule", functionArgsRule),
  ("function_noargs_rule", functionNoargsRule),
  ("header", header),
  ("identifier_line", identifierLine),
  ("integer", integerNumber),
  ("line_comment", lineComment),
  ("macro_rule", macroRule),
  ("operands", operands),
  ("operators", operators),
  ("prose", prose),
  ("string_content", stringContent),
  ("string_dquote", stringDquote),
  ("string_squote", stringSquote),
  ("switch", switchBlock),
  ("switch_branch_condition", switchBranchCondition),
  ("switch_branch_expression", switchBranchExpression),
  ("switch_default_expression", switchDefaultExpression),
  ("symbol_rule", symbolRule),
  ("variable", variableName)]

def grammar : Descriptor :=
  { Descriptor.empty with
    scopeName := "source.dogma"
    names := ["dogma"]
    extensions := [".dogma"]
    firstLineMatch := some "dogma_v1 [a-zA-Z][a-zA-Z0-9_.+:()-]+"
    patterns := [
      entry "identifier_line",
      entry "header",
      entry "function_noargs_rule",
      entry "symbol_rule",
      entry "function_args_rule",
      entry "macro_rule",
      entry "line_comment"]
    repository }

end Scopelight.Dogma
