import CodeAtlas.Syntax.Grammar.Expressions
import CodeAtlas.Syntax.Grammar.Elements
import CodeAtlas.Syntax.Grammar.Statements

/-!
# The grammar of a language

The rule of every phrase, for each covered language.
-/
namespace CodeAtlas.Syntax

open Grammar in
/-- The rule of a phrase. -/
def grammarOf (language : Language) : Grammar Phrase
  | .statement => statementRule language
  | .declaration => declarationRule language
  | .block => blockRule
  | .sequence follow => sequenceRule follow
  | .expression follow => expressionRule follow
  | .binary follow level => binaryRule language follow level
  | .operand follow => operandRule language follow
  | .postfix_ follow => postfixRule language follow
  | .primary => primaryRule language
  | .constructed => constructedRule
  | .arrowHead follow => arrowHeadRule language follow
  | .arrowBlock follow => arrowChainRule language follow
  | .arguments => argumentsRule
  | .templateString => templateStringRule
  | .object => objectRule
  | .function => functionRule
  | .classExpression => classExpressionRule language
  | .destructuring => destructuringRule
  | .pattern => patternRule
  | .formalParameters => formalParametersRule language
  | .callSignature follow => callSignatureRule language follow
  | .propertyName => propertyNameRule
  | .objectMethod => method language
  | .classBody => classBodyRule language
  | .decorator => decoratorRule language
  | .element => elementRule language
  | .type follow => typeRule follow
  | .typeUnion follow => typeUnionRule follow
  | .typeOperand follow => typeOperandRule follow
  | .typePostfix follow => typePostfixRule follow
  | .typePrimary => typePrimaryRule
  | .objectType => objectTypeBody .objectType
  | .typeArguments => typeArgumentsRule
  | .typeParameters => typeParametersRule

end CodeAtlas.Syntax
