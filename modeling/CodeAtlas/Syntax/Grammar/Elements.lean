import CodeAtlas.Syntax.Grammar.Phrase

/-!
# Embedded elements

Elements with attributes and children. The name of a closing mark need not match its opening.
-/
namespace CodeAtlas.Syntax.Grammar

/-- The name of an element. -/
def elementName : R :=
  anyOf
    [node .jsxNamespaceName (token (.elementName .identifier) >> mark ":" >>
        token (.elementName .identifier)),
      grow (token (.elementName .identifier))
        (onto .memberExpression (mark "." >> name .propertyIdentifier .nothing))]

/-- An expression in braces. -/
def embeddedExpression : R :=
  node .jsxExpression
    (mark "\x7b" >>
      opt (node .spreadElement (mark "..." >> ref (.expression .closed)) <|>
        ref (.sequence .closed)) >>
      mark "\x7d")

/-- An attribute of an element. -/
def elementAttribute : R :=
  let label : R :=
    node .jsxNamespaceName (token (.elementName .identifier) >> mark ":" >>
      token (.elementName .identifier)) <|> token (.elementName .propertyIdentifier)
  let value : R := anyOf [token .elementString, embeddedExpression, ref .element]
  node .jsxAttribute (label >> opt (mark "=" >> value)) <|> embeddedExpression

/-- An element. -/
def elementRule (language : Language) : R :=
  let types : R := if language.typed then opt (ref .typeArguments) else done
  let child : R := anyOf
    [token .elementText, token .entity, ref .element, embeddedExpression]
  let named : R := elementName >> types >> many elementAttribute
  let opening : R := node .jsxOpeningElement (mark "<" >> opt named >> mark ">")
  let closing : R := node .jsxClosingElement
    (mark "<" >> mark "/" >> opt elementName >> mark ">")
  node .jsxSelfClosingElement (mark "<" >> named >> mark "/" >> mark ">") <|>
    node .jsxElement (opening >> many child >> closing)

end CodeAtlas.Syntax.Grammar
