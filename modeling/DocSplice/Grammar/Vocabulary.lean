import DocSplice.Grammar.Chart
import DocSplice.Text.Basic

/-!
# Terminals and categories

The vocabulary of the grammar of structured sources.  Terminals are the words, marks and literals of
the text and the layout signals that stand for line ends and changes of indentation.  Categories are
what rules are about.

The names of the keywords end in an underscore.
-/

namespace DocSplice.Grammar

/-- A word with a role of its own. -/
inductive Keyword where
  | and_ | as_ | assert_ | async_ | await_ | break_ | case_ | class_ | continue_ | def_ | del_
  | elif_ | else_ | except_ | exec_ | false_ | finally_ | for_ | from_ | future_ | global_ | if_
  | import_ | in_ | is_ | lambda_ | match_ | none_ | nonlocal_ | not_ | or_ | pass_ | print_
  | raise_ | return_ | true_ | try_ | type_ | while_ | with_ | yield_ | underscore_
  deriving DecidableEq, Repr

/-- A sign made of other characters, or of a word and one of them. -/
inductive Mark where
  | leftParen | rightParen | leftBracket | rightBracket | leftBrace | rightBrace | comma | colon
  | semicolon | dot | ellipsis | assign | walrus | arrow | at | star | doubleStar | plus | minus
  | slash | doubleSlash | percent | bar | ampersand | caret | tilde | shiftLeft | shiftRight
  | less | lessEqual | equal | notEqual | greaterEqual | greater | lessGreater | plusAssign
  | minusAssign | starAssign | slashAssign | atAssign | doubleSlashAssign | percentAssign
  | doubleStarAssign | shiftRightAssign | shiftLeftAssign | ampersandAssign | caretAssign
  | barAssign | exceptStar
  deriving DecidableEq, Repr

/-- The spelling of a keyword. -/
def Keyword.spelling : Keyword → Text
  | .and_ => "and".toList
  | .as_ => "as".toList
  | .assert_ => "assert".toList
  | .async_ => "async".toList
  | .await_ => "await".toList
  | .break_ => "break".toList
  | .case_ => "case".toList
  | .class_ => "class".toList
  | .continue_ => "continue".toList
  | .def_ => "def".toList
  | .del_ => "del".toList
  | .elif_ => "elif".toList
  | .else_ => "else".toList
  | .except_ => "except".toList
  | .exec_ => "exec".toList
  | .false_ => "False".toList
  | .finally_ => "finally".toList
  | .for_ => "for".toList
  | .from_ => "from".toList
  | .future_ => "__future__".toList
  | .global_ => "global".toList
  | .if_ => "if".toList
  | .import_ => "import".toList
  | .in_ => "in".toList
  | .is_ => "is".toList
  | .lambda_ => "lambda".toList
  | .match_ => "match".toList
  | .none_ => "None".toList
  | .nonlocal_ => "nonlocal".toList
  | .not_ => "not".toList
  | .or_ => "or".toList
  | .pass_ => "pass".toList
  | .print_ => "print".toList
  | .raise_ => "raise".toList
  | .return_ => "return".toList
  | .true_ => "True".toList
  | .try_ => "try".toList
  | .type_ => "type".toList
  | .while_ => "while".toList
  | .with_ => "with".toList
  | .yield_ => "yield".toList
  | .underscore_ => "_".toList

/-- Every keyword. -/
def Keyword.all : List Keyword :=
  [.and_, .as_, .assert_, .async_, .await_, .break_, .case_, .class_, .continue_, .def_, .del_,
  .elif_, .else_, .except_, .exec_, .false_, .finally_, .for_, .from_, .future_, .global_, .if_,
  .import_, .in_, .is_, .lambda_, .match_, .none_, .nonlocal_, .not_, .or_, .pass_, .print_,
  .raise_, .return_, .true_, .try_, .type_, .while_, .with_, .yield_, .underscore_]

theorem Keyword.mem_all (k : Keyword) : k ∈ Keyword.all := by cases k <;> decide

/-- The keyword with the given spelling. -/
def Keyword.ofSpelling? (word : Text) : Option Keyword :=
  Keyword.all.find? fun k => k.spelling = word

/-- The spelling of a mark. -/
def Mark.spelling : Mark → Text
  | .leftParen => ['(']
  | .rightParen => [')']
  | .leftBracket => ['[']
  | .rightBracket => [']']
  | .leftBrace => ['{']
  | .rightBrace => ['}']
  | .comma => [',']
  | .colon => [':']
  | .semicolon => [';']
  | .dot => ['.']
  | .ellipsis => ['.', '.', '.']
  | .assign => ['=']
  | .walrus => [':', '=']
  | .arrow => ['-', '>']
  | .at => ['@']
  | .star => ['*']
  | .doubleStar => ['*', '*']
  | .plus => ['+']
  | .minus => ['-']
  | .slash => ['/']
  | .doubleSlash => ['/', '/']
  | .percent => ['%']
  | .bar => ['|']
  | .ampersand => ['&']
  | .caret => ['^']
  | .tilde => ['~']
  | .shiftLeft => ['<', '<']
  | .shiftRight => ['>', '>']
  | .less => ['<']
  | .lessEqual => ['<', '=']
  | .equal => ['=', '=']
  | .notEqual => ['!', '=']
  | .greaterEqual => ['>', '=']
  | .greater => ['>']
  | .lessGreater => ['<', '>']
  | .plusAssign => ['+', '=']
  | .minusAssign => ['-', '=']
  | .starAssign => ['*', '=']
  | .slashAssign => ['/', '=']
  | .atAssign => ['@', '=']
  | .doubleSlashAssign => ['/', '/', '=']
  | .percentAssign => ['%', '=']
  | .doubleStarAssign => ['*', '*', '=']
  | .shiftRightAssign => ['>', '>', '=']
  | .shiftLeftAssign => ['<', '<', '=']
  | .ampersandAssign => ['&', '=']
  | .caretAssign => ['^', '=']
  | .barAssign => ['|', '=']
  | .exceptStar => "except*".toList

/-- Every mark. -/
def Mark.all : List Mark :=
  [.leftParen, .rightParen, .leftBracket, .rightBracket, .leftBrace, .rightBrace, .comma,
  .colon, .semicolon, .dot, .ellipsis, .assign, .walrus, .arrow, .at, .star, .doubleStar, .plus,
  .minus, .slash, .doubleSlash, .percent, .bar, .ampersand, .caret, .tilde, .shiftLeft,
  .shiftRight, .less, .lessEqual, .equal, .notEqual, .greaterEqual, .greater, .lessGreater,
  .plusAssign, .minusAssign, .starAssign, .slashAssign, .atAssign, .doubleSlashAssign,
  .percentAssign, .doubleStarAssign, .shiftRightAssign, .shiftLeftAssign, .ampersandAssign,
  .caretAssign, .barAssign, .exceptStar]

theorem Mark.mem_all (m : Mark) : m ∈ Mark.all := by cases m <;> decide

/-- What the grammar reads. -/
inductive Terminal where
  | keyword (k : Keyword)
  | mark (m : Mark)
  | name
  | integer
  | float
  /-- The end of a line that ends a statement. -/
  | newline
  /-- The start of a more deeply indented block. -/
  | indent
  /-- The end of a block. -/
  | dedent
  /-- Prefix letters and opening quotes. -/
  | stringStart
  /-- A stretch of plain characters inside quotes. -/
  | stringText
  /-- A backslash and what it stands before. -/
  | escape
  /-- A backslash that escapes nothing. -/
  | loneBackslash
  /-- A brace written twice inside a formatted string. -/
  | doubledBrace
  /-- Closing quotes. -/
  | stringEnd
  /-- The letter of a conversion inside a formatted string. -/
  | conversion
  /-- The plain part of a format inside a formatted string. -/
  | formatText
  | endOfText
  deriving DecidableEq, Repr

/-- What the rules of the grammar make. -/
inductive Category where
  | file | statements | statement | line | simples | simple | compound | chevron | execCode
  | names | moduleName | dots | dotted | importList | importItems | importItem | expressions
  | expressionItems | conditional | elifs | elif | alternative | loop | whileLoop | attempt
  | excepts | except | exceptGroups | exceptGroup | cleanup | context | function | class_
  | decorated | decorators | decorator | selection | cases | caseList | caseClause | suite
  | block | typeParameters | types | typeExpr | parameters | parameterList | parameter
  | plainParameter | lambdaParameters | lambdaParameterList | splat | doubleSplat | targets
  | targetList | target | tupleTarget | listTarget | arguments | argumentList | argument
  | parenthesizedSplat | listSplat | expression | unit | closedExpression | iterated
  | iteratedChain | iteratedUnit | namedTarget | keywordName | atomKeyword | comparison
  | comparisonSign | sum | binarySign | operand | unarySign | postfixed | attribute | subscript
  | subscriptList | subscriptItem | call | atom | string | strings | stringParts | stringPart
  | interpolation | formatted | formatSpec | specParts | specPart | list | set | dictionary
  | dictionaryItems | dictionaryItem | pair | tuple | generator | elements | elementList
  | element | clauses | forClause | iteratedList | ifClause | yieldExpr | assignment | augmented
  | augmentedSign | assigned | casePatterns | casePattern | simplePattern | patternItems
  | patternPairs | patternPair | number
  deriving DecidableEq, Repr

end DocSplice.Grammar
