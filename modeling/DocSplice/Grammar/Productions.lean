import DocSplice.Grammar.Vocabulary

/-!
# The grammar of structured sources

The rules by which statements, expressions, patterns and types are made.  They accept somewhat more
than a running program may hold: a block may be empty, statements of older language versions are
read, and nothing is checked that takes more than the shape of the text.

Three decisions are built into the rules because they reject texts that a plain reading would
accept.

* After `if` inside a comprehension or a case the condition is a `closedExpression`, which has no
  conditional at its top, and so is what a comprehension iterates over; an `if` there always starts
  the next condition.
* The parameters of a `lambda` have no types, since the colon ends them.
* `await` is a name only where nothing follows that it could wait for.

No rule makes a category out of nothing.
-/

namespace DocSplice.Grammar

/-- A symbol of the grammar. -/
abbrev Sym := Chart.Symbol Terminal Category

/-- A keyword as a symbol. -/
def k (word : Keyword) : Sym := .terminal (.keyword word)

/-- A mark as a symbol. -/
def m (sign : Mark) : Sym := .terminal (.mark sign)

/-- Any other terminal as a symbol. -/
def t (a : Terminal) : Sym := .terminal a

/-- A category as a symbol. -/
def c (x : Category) : Sym := .category x

/-- A phrase that has to be there. -/
def need (phrase : List Sym) : List (List Sym) := [phrase]

/-- A phrase that may be left out. -/
def maybe (phrase : List Sym) : List (List Sym) := [[], phrase]

/-- One choice from each list, put together. -/
def inTurn : List (List (List Sym)) → List (List Sym)
  | [] => [[]]
  | choices :: rest => choices.flatMap fun phrase => (inTurn rest).map (phrase ++ ·)

/-- One or more of a category; `many` is the category being made. -/
def oneOrMore (many single : Category) : List (List Sym) := [[c single], [c many, c single]]

/-- One or more of a phrase with commas between. -/
def commaSeparated (many : Category) (single : Sym) : List (List Sym) :=
  [[single], [c many, m .comma, single]]

/-- A phrase, perhaps with a comma at its end. -/
def commaEnded (phrase : Sym) : List (List Sym) := [[phrase], [phrase, m .comma]]

/-- A phrase between two marks; the phrase may be missing, and may end with a comma. -/
def listBetween (opening closing : Mark) (phrase : Sym) : List (List Sym) :=
  [[m opening, m closing], [m opening, phrase, m closing],
   [m opening, phrase, m .comma, m closing]]

/-- The rules that make statements. -/
def simpleStatements : List (List Sym) :=
  [[k .from_, k .future_, k .import_, c .importList],
   [k .from_, k .future_, k .import_, m .leftParen, c .importList, m .rightParen],
   [k .import_, c .importList],
   [k .from_, c .moduleName, k .import_, m .star],
   [k .from_, c .moduleName, k .import_, c .importList],
   [k .from_, c .moduleName, k .import_, m .leftParen, c .importList, m .rightParen],
   [k .print_, c .chevron], [k .print_, c .chevron, m .comma],
   [k .print_, c .chevron, m .comma, c .expressionItems],
   [k .print_, c .expressionItems],
   [k .assert_, c .expressions],
   [c .expressionItems], [c .assignment], [c .augmented], [c .yieldExpr],
   [k .return_], [k .return_, c .expressionItems],
   [k .del_, c .expressionItems],
   [k .raise_], [k .raise_, c .expressionItems], [k .raise_, k .from_, c .expression],
   [k .raise_, c .expressionItems, k .from_, c .expression],
   [k .pass_], [k .break_], [k .continue_],
   [k .global_, c .names], [k .nonlocal_, c .names],
   [k .exec_, c .execCode], [k .exec_, c .execCode, k .in_, c .expressions],
   [k .type_, c .typeExpr, m .assign, c .typeExpr]]

/-- The rules that make atoms: the expressions that no sign can reach into. -/
def atoms : List (List Sym) :=
  [[t .name], [c .atomKeyword], [c .strings], [t .integer], [t .float],
   [k .true_], [k .false_], [k .none_], [m .ellipsis],
   [c .list], [c .set], [c .dictionary], [c .tuple], [c .generator], [c .splat]]

/-- The rules that make slices. -/
def slices : List (List Sym) :=
  inTurn [maybe [c .expression], need [m .colon], maybe [c .expression],
    [[], [m .colon], [m .colon, c .expression]]]

/-- The marks that stand between two operands. -/
def binarySigns : List Mark :=
  [.plus, .minus, .star, .at, .slash, .percent, .doubleSlash, .doubleStar, .bar, .ampersand, .caret,
   .shiftLeft, .shiftRight]

/-- The marks that stand between two things that are compared. -/
def comparisonSigns : List Mark :=
  [.less, .lessEqual, .equal, .notEqual, .greaterEqual, .greater, .lessGreater]

/-- The marks of assignments that compute. -/
def augmentedSigns : List Mark :=
  [.plusAssign, .minusAssign, .starAssign, .slashAssign, .atAssign, .doubleSlashAssign,
   .percentAssign, .doubleStarAssign, .shiftRightAssign, .shiftLeftAssign, .ampersandAssign,
   .caretAssign, .barAssign]

/-- The ways to make a category. -/
def productions : Category → List (List Sym)
  | .file => [[c .statements, t .endOfText], [t .endOfText]]
  | .statements => oneOrMore .statements .statement
  | .statement => [[c .line], [c .compound]]
  | .line => [[c .simples, t .newline], [c .simples, m .semicolon, t .newline]]
  | .simples => [[c .simple], [c .simples, m .semicolon, c .simple]]
  | .simple => simpleStatements
  | .compound =>
    [[c .conditional], [c .loop], [c .whileLoop], [c .attempt], [c .context], [c .function],
     [c .class_], [c .decorated], [c .selection]]
  | .chevron => [[m .shiftRight, c .expression]]
  | .execCode => [[c .string], [t .name]]
  | .names => commaSeparated .names (t .name)
  | .moduleName => [[c .dotted], [c .dots], [c .dots, c .dotted]]
  | .dots => [[m .dot], [c .dots, m .dot]]
  | .dotted => [[t .name], [c .dotted, m .dot, t .name]]
  | .importList => commaEnded (c .importItems)
  | .importItems => commaSeparated .importItems (c .importItem)
  | .importItem => [[c .dotted], [c .dotted, k .as_, t .name]]
  | .expressions => commaSeparated .expressions (c .expression)
  | .expressionItems => commaEnded (c .expressions)
  -- statements with blocks
  | .conditional =>
    inTurn [need [k .if_, c .expression, m .colon, c .suite], maybe [c .elifs],
      maybe [c .alternative]]
  | .elifs => oneOrMore .elifs .elif
  | .elif => [[k .elif_, c .expression, m .colon, c .suite]]
  | .alternative => [[k .else_, m .colon, c .suite]]
  | .loop =>
    inTurn [maybe [k .async_],
      need [k .for_, c .targets, k .in_, c .expressionItems, m .colon, c .suite],
      maybe [c .alternative]]
  | .whileLoop =>
    inTurn [need [k .while_, c .expression, m .colon, c .suite], maybe [c .alternative]]
  | .attempt =>
    inTurn [need [k .try_, m .colon, c .suite], [[c .excepts], [c .exceptGroups]],
        maybe [c .alternative], maybe [c .cleanup]]
      ++ [[k .try_, m .colon, c .suite, c .cleanup]]
  | .excepts => oneOrMore .excepts .except
  | .except =>
    [[k .except_, m .colon, c .suite], [k .except_, c .expression, m .colon, c .suite],
     [k .except_, c .expression, k .as_, c .expression, m .colon, c .suite],
     [k .except_, c .expression, m .comma, c .expression, m .colon, c .suite]]
  | .exceptGroups => oneOrMore .exceptGroups .exceptGroup
  | .exceptGroup =>
    [[m .exceptStar, c .expression, m .colon, c .suite],
     [m .exceptStar, c .expression, k .as_, c .expression, m .colon, c .suite]]
  | .cleanup => [[k .finally_, m .colon, c .suite]]
  | .context =>
    inTurn [maybe [k .async_], need [k .with_, c .expressionItems, m .colon, c .suite]]
  | .function =>
    inTurn [maybe [k .async_], need [k .def_, t .name], maybe [c .typeParameters],
      need [c .parameters], maybe [m .arrow, c .typeExpr], need [m .colon, c .suite]]
  | .class_ =>
    inTurn [need [k .class_, t .name], maybe [c .typeParameters], maybe [c .arguments],
      need [m .colon, c .suite]]
  | .decorated => [[c .decorators, c .function], [c .decorators, c .class_]]
  | .decorators => oneOrMore .decorators .decorator
  | .decorator => [[m .at, c .expression, t .newline]]
  | .selection => [[k .match_, c .expressionItems, m .colon, c .cases]]
  | .cases => [[t .indent, c .caseList, t .dedent], [t .indent, t .dedent], [t .newline]]
  | .caseList => oneOrMore .caseList .caseClause
  | .caseClause =>
    inTurn [need [k .case_, c .casePatterns], maybe [m .comma], maybe [c .ifClause],
      need [m .colon, c .suite]]
  | .suite => [[c .line], [t .indent, c .block], [t .newline]]
  | .block => [[t .dedent], [c .statements, t .dedent]]
  -- headers of functions and classes
  | .typeParameters =>
    [[m .leftBracket, c .types, m .rightBracket],
     [m .leftBracket, c .types, m .comma, m .rightBracket]]
  | .types => commaSeparated .types (c .typeExpr)
  | .typeExpr =>
    [[c .expression], [m .star, t .name], [m .doubleStar, t .name],
     [t .name, c .typeParameters], [k .type_, c .typeParameters],
     [c .typeExpr, m .bar, c .typeExpr], [c .typeExpr, m .colon, c .typeExpr],
     [c .typeExpr, m .dot, t .name]]
  | .parameters => listBetween .leftParen .rightParen (c .parameterList)
  | .parameterList => commaSeparated .parameterList (c .parameter)
  | .parameter =>
    [[c .plainParameter], [t .name, m .colon, c .typeExpr], [c .splat, m .colon, c .typeExpr],
     [c .doubleSplat, m .colon, c .typeExpr],
     [t .name, m .colon, c .typeExpr, m .assign, c .expression]]
  | .plainParameter =>
    [[t .name], [c .tupleTarget], [t .name, m .assign, c .expression],
     [c .tupleTarget, m .assign, c .expression], [c .splat], [c .doubleSplat], [m .star],
     [m .slash]]
  | .lambdaParameters => commaEnded (c .lambdaParameterList)
  | .lambdaParameterList => commaSeparated .lambdaParameterList (c .plainParameter)
  | .splat =>
    [[m .star, t .name], [m .star, c .keywordName], [m .star, c .subscript],
     [m .star, c .attribute]]
  | .doubleSplat =>
    [[m .doubleStar, t .name], [m .doubleStar, c .keywordName], [m .doubleStar, c .subscript],
     [m .doubleStar, c .attribute]]
  -- what is assigned to
  | .targets => commaEnded (c .targetList)
  | .targetList => commaSeparated .targetList (c .target)
  | .target =>
    [[t .name], [c .keywordName], [c .subscript], [c .attribute], [c .splat], [c .tupleTarget],
     [c .listTarget]]
  | .tupleTarget => [[m .leftParen, m .rightParen], [m .leftParen, c .targets, m .rightParen]]
  | .listTarget =>
    [[m .leftBracket, m .rightBracket], [m .leftBracket, c .targets, m .rightBracket]]
  -- calls
  | .arguments =>
    [m .leftParen, m .comma, m .rightParen]
      :: listBetween .leftParen .rightParen (c .argumentList)
  | .argumentList => commaSeparated .argumentList (c .argument)
  | .argument =>
    [[c .expression], [c .listSplat], [m .doubleStar, c .expression], [c .parenthesizedSplat],
     [t .name, m .assign, c .expression], [c .keywordName, m .assign, c .expression]]
  | .parenthesizedSplat =>
    [[m .leftParen, c .parenthesizedSplat, m .rightParen],
     [m .leftParen, c .listSplat, m .rightParen]]
  | .listSplat => [[m .star, c .expression]]
  -- expressions
  | .expression =>
    [[c .unit], [c .expression, k .and_, c .unit], [c .expression, k .or_, c .unit],
     [c .expression, k .as_, c .unit],
     [c .expression, k .if_, c .expression, k .else_, c .unit]]
  | .unit =>
    [[k .not_, c .unit], [c .namedTarget, m .walrus, c .unit],
     [k .lambda_, m .colon, c .expression],
     [k .lambda_, c .lambdaParameters, m .colon, c .expression], [c .comparison]]
  | .closedExpression =>
    [[c .unit], [c .closedExpression, k .and_, c .unit], [c .closedExpression, k .or_, c .unit],
     [c .closedExpression, k .as_, c .unit]]
  | .iterated =>
    [[k .lambda_, m .colon, c .iterated],
     [k .lambda_, c .lambdaParameters, m .colon, c .iterated], [c .iteratedChain]]
  | .iteratedChain =>
    [[c .iteratedUnit], [c .iteratedChain, k .and_, c .unit], [c .iteratedChain, k .or_, c .unit],
     [c .iteratedChain, k .as_, c .unit]]
  | .iteratedUnit =>
    [[k .not_, c .unit], [c .namedTarget, m .walrus, c .unit], [c .comparison]]
  | .namedTarget => [[t .name], [c .keywordName]]
  | .keywordName => [[c .atomKeyword], [k .await_]]
  | .atomKeyword => [[k .print_], [k .exec_], [k .async_], [k .type_], [k .match_]]
  | .comparison => [[c .sum], [c .comparison, c .comparisonSign, c .sum]]
  | .comparisonSign =>
    comparisonSigns.map (fun sign => [m sign])
      ++ [[k .in_], [k .not_, k .in_], [k .is_], [k .is_, k .not_]]
  | .sum => [[c .operand], [c .sum, c .binarySign, c .operand]]
  | .binarySign => binarySigns.map fun sign => [m sign]
  | .operand => [[c .unarySign, c .operand], [k .await_, c .operand], [c .postfixed], [k .await_]]
  | .unarySign => [[m .plus], [m .minus], [m .tilde]]
  | .postfixed => [[c .atom], [c .attribute], [c .subscript], [c .call]]
  | .attribute => [[c .postfixed, m .dot, t .name], [k .await_, m .dot, t .name]]
  | .subscript => [[c .postfixed, m .leftBracket, c .subscriptList, m .rightBracket],
     [c .postfixed, m .leftBracket, c .subscriptList, m .comma, m .rightBracket]]
  | .subscriptList => commaSeparated .subscriptList (c .subscriptItem)
  | .subscriptItem => [c .expression] :: slices
  | .call => [[c .postfixed, c .arguments], [c .postfixed, c .generator]]
  | .atom => atoms
  -- strings
  | .string => [[t .stringStart, t .stringEnd], [t .stringStart, c .stringParts, t .stringEnd]]
  | .strings => oneOrMore .strings .string
  | .stringParts => oneOrMore .stringParts .stringPart
  | .stringPart =>
    [[t .stringText], [t .escape], [t .loneBackslash], [t .doubledBrace], [c .interpolation]]
  | .interpolation =>
    inTurn [need [m .leftBrace, c .formatted], maybe [m .assign], maybe [t .conversion],
      maybe [c .formatSpec], need [m .rightBrace]]
  | .formatted => [[c .expressionItems], [c .yieldExpr]]
  | .formatSpec => [[m .colon], [m .colon, c .specParts]]
  | .specParts => oneOrMore .specParts .specPart
  | .specPart => [[t .formatText], [m .leftBrace, c .expression, m .rightBrace]]
  -- collections
  | .list =>
    [[m .leftBracket, m .rightBracket], [m .leftBracket, c .elements, m .rightBracket],
     [m .leftBracket, c .expression, c .clauses, m .rightBracket]]
  | .set =>
    [[m .leftBrace, c .elements, m .rightBrace],
     [m .leftBrace, c .expression, c .clauses, m .rightBrace]]
  | .dictionary =>
    [m .leftBrace, m .comma, m .rightBrace]
      :: [m .leftBrace, c .pair, c .clauses, m .rightBrace]
      :: listBetween .leftBrace .rightBrace (c .dictionaryItems)
  | .dictionaryItems => commaSeparated .dictionaryItems (c .dictionaryItem)
  | .dictionaryItem => [[c .pair], [m .doubleStar, c .expression]]
  | .pair => [[c .expression, m .colon, c .expression]]
  | .tuple => [[m .leftParen, m .rightParen], [m .leftParen, c .elements, m .rightParen]]
  | .generator => [[m .leftParen, c .expression, c .clauses, m .rightParen]]
  | .elements => commaEnded (c .elementList)
  | .elementList => commaSeparated .elementList (c .element)
  | .element => [[c .expression], [c .yieldExpr], [c .listSplat], [c .parenthesizedSplat]]
  | .clauses => [[c .forClause], [c .clauses, c .forClause], [c .clauses, c .ifClause]]
  | .forClause =>
    inTurn [maybe [k .async_], need [k .for_, c .targets, k .in_, c .iteratedList],
      maybe [m .comma]]
  | .iteratedList => commaSeparated .iteratedList (c .iterated)
  | .ifClause => [[k .if_, c .closedExpression]]
  -- yields and assignments
  | .yieldExpr =>
    [[k .yield_], [k .yield_, k .from_, c .expression], [k .yield_, c .expressionItems]]
  | .assignment =>
    [[c .targets, m .assign, c .assigned], [c .targets, m .colon, c .typeExpr],
     [c .targets, m .colon, c .typeExpr, m .assign, c .assigned]]
  | .augmented => [[c .targets, c .augmentedSign, c .assigned]]
  | .augmentedSign => augmentedSigns.map fun sign => [m sign]
  | .assigned => [[c .expressionItems], [c .assignment], [c .augmented], [c .yieldExpr]]
  -- patterns of cases
  | .casePatterns => commaSeparated .casePatterns (c .casePattern)
  | .casePattern =>
    [[c .casePattern, k .as_, t .name], [t .name, m .assign, c .simplePattern],
     [c .simplePattern]]
  | .simplePattern =>
    [c .dotted, m .leftParen, m .rightParen]
      :: [c .dotted, m .leftParen, c .patternItems, m .rightParen]
      :: [m .star, t .name] :: [m .star, k .underscore_]
      :: [m .doubleStar, t .name] :: [m .doubleStar, k .underscore_]
      :: [c .simplePattern, m .bar, c .simplePattern]
      :: [m .leftBracket, m .rightBracket] :: [m .leftBracket, c .patternItems, m .rightBracket]
      :: [m .leftParen, m .rightParen] :: [m .leftParen, c .patternItems, m .rightParen]
      :: [c .strings] :: [k .true_] :: [k .false_] :: [k .none_] :: [c .dotted]
      :: [k .underscore_]
      :: listBetween .leftBrace .rightBrace (c .patternPairs)
      ++ inTurn [maybe [m .minus], need [c .number],
        [[], [m .plus, c .number], [m .minus, c .number]]]
  | .patternItems => commaEnded (c .casePatterns)
  | .patternPairs => commaSeparated .patternPairs (c .patternPair)
  | .patternPair =>
    [[c .simplePattern, m .colon, c .casePattern], [m .star, t .name], [m .star, k .underscore_],
     [m .doubleStar, t .name], [m .doubleStar, k .underscore_]]
  | .number => [[t .integer], [t .float]]

/-- The grammar of structured sources. -/
def grammar : Chart.Grammar Terminal Category where
  start := .file
  productions := productions
  index := Category.ctorIdx
  size := 4096

end DocSplice.Grammar
