/-! The kinds of node in a Ruby syntax tree, and what each of them holds.

A kind has a tag, by which a document names it, and a layout: its fields in order,
each with a name and a slot that says what stands there. Everything that goes
through a tree, reading it, writing it, walking it, goes through the layout, so
that no field of any kind can be read by one of them and missed by another. -/
namespace ScriptGate

/-- What a field holds: a text, a node, perhaps a node, nodes, or the parts of a
string literal. -/
inductive Slot where
  | token | child | optional | list | parts
  deriving DecidableEq, Repr

/-- The fields of a kind, in order. -/
abbrev Layout := List (String × Slot)

inductive Kind where
  | alias | args | array | assoc | binary | block | call | caseOf | char | chainedBlock
  | classDef | classVariable | classVariableAssignment | constant | constantAssignment
  | definedTest | elseBranch | executableString | float | forLoop | globalVariable
  | globalVariableAssignment | hash | identifier | ifBranch | ifMod | ifOp | instanceVariable
  | instanceVariableAssignment | integer | keyword | label | localVariableAssignment | methodDef
  | moduleDef | multiAssignment | multiAssignmentList | params | program | range | rescueMod
  | rescueParams | singletonClass | splatArg | statements | string | stringConcat | symbol | unary
  | unlessBranch | unlessMod | untilLoop | untilMod | whenBranch | whileLoop | whileMod
  deriving DecidableEq, Repr

namespace Kind

/-- The name of a kind in a document. -/
def tag : Kind → String
  | .alias => "alias"
  | .args => "args"
  | .array => "array"
  | .assoc => "assoc"
  | .binary => "binary"
  | .block => "block"
  | .call => "call"
  | .caseOf => "case"
  | .char => "char"
  | .chainedBlock => "chained_block"
  | .classDef => "class"
  | .classVariable => "class_variable"
  | .classVariableAssignment => "class_variable_assignment"
  | .constant => "constant"
  | .constantAssignment => "constant_assignment"
  | .definedTest => "defined"
  | .elseBranch => "else"
  | .executableString => "executable_string"
  | .float => "float"
  | .forLoop => "for"
  | .globalVariable => "global_variable"
  | .globalVariableAssignment => "global_variable_assignment"
  | .hash => "hash"
  | .identifier => "identifier"
  | .ifBranch => "if"
  | .ifMod => "if_mod"
  | .ifOp => "if_op"
  | .instanceVariable => "instance_variable"
  | .instanceVariableAssignment => "instance_variable_assignment"
  | .integer => "integer"
  | .keyword => "keyword"
  | .label => "label"
  | .localVariableAssignment => "local_variable_assignment"
  | .methodDef => "method"
  | .moduleDef => "module"
  | .multiAssignment => "multi_assignment"
  | .multiAssignmentList => "multi_assignment_list"
  | .params => "params"
  | .program => "program"
  | .range => "range"
  | .rescueMod => "rescue_mod"
  | .rescueParams => "rescue_params"
  | .singletonClass => "singleton_class"
  | .splatArg => "splat_arg"
  | .statements => "statements"
  | .string => "string"
  | .stringConcat => "string_concat"
  | .symbol => "symbol"
  | .unary => "unary"
  | .unlessBranch => "unless"
  | .unlessMod => "unless_mod"
  | .untilLoop => "until"
  | .untilMod => "until_mod"
  | .whenBranch => "when"
  | .whileLoop => "while"
  | .whileMod => "while_mod"

def layout : Kind → Layout
  | .alias => [("new_name", .token), ("old_name", .token)]
  | .args => [("elements", .list)]
  | .array => [("elements", .list)]
  | .assoc => [("key", .child), ("value", .child)]
  | .binary => [("operator", .token), ("lvalue", .child), ("rvalue", .child)]
  | .block => [("params", .optional), ("elements", .list)]
  | .call =>
    [("target", .optional), ("identifier", .token), ("arguments", .optional), ("block", .optional)]
  | .caseOf => [("expression", .child), ("block", .child)]
  | .char => [("token", .token)]
  | .chainedBlock => [("elements", .list), ("blocks", .list), ("params", .optional)]
  | .classDef => [("constant", .child), ("superclass", .optional), ("body", .child)]
  | .classVariable => [("token", .token)]
  | .classVariableAssignment => [("lvalue", .token), ("rvalue", .child)]
  | .constant => [("token", .token)]
  | .constantAssignment => [("lvalue", .child), ("rvalue", .child)]
  | .definedTest => [("expression", .child)]
  | .elseBranch => [("elements", .list)]
  | .executableString => [("elements", .parts)]
  | .float => [("token", .token)]
  | .forLoop => [("variable", .child), ("range", .child), ("statements", .child)]
  | .globalVariable => [("token", .token)]
  | .globalVariableAssignment => [("lvalue", .token), ("rvalue", .child)]
  | .hash => [("assocs", .list)]
  | .identifier => [("token", .token)]
  | .ifBranch => [("expression", .child), ("elements", .list), ("blocks", .list)]
  | .ifMod => [("expression", .child), ("elements", .list)]
  | .ifOp => [("condition", .child), ("then_part", .child), ("else_part", .child)]
  | .instanceVariable => [("token", .token)]
  | .instanceVariableAssignment => [("lvalue", .token), ("rvalue", .child)]
  | .integer => [("token", .token)]
  | .keyword => [("token", .token)]
  | .label => [("token", .token)]
  | .localVariableAssignment => [("lvalue", .token), ("rvalue", .child)]
  | .methodDef =>
    [("target", .optional), ("identifier", .token), ("params", .optional), ("body", .child)]
  | .moduleDef => [("constant", .child), ("body", .child)]
  | .multiAssignment => [("lvalue", .child), ("rvalue", .child)]
  | .multiAssignmentList => [("elements", .list)]
  | .params => [("elements", .list)]
  | .program => [("elements", .list)]
  | .range => [("min", .child), ("max", .child)]
  | .rescueMod => [("elements", .list), ("expression", .child)]
  | .rescueParams => [("elements", .list)]
  | .singletonClass => [("superclass", .child), ("body", .child)]
  | .splatArg => [("arg", .child)]
  | .statements => [("elements", .list)]
  | .string => [("elements", .parts)]
  | .stringConcat => [("elements", .list)]
  | .symbol => [("token", .token)]
  | .unary => [("operator", .token), ("operand", .child)]
  | .unlessBranch => [("expression", .child), ("elements", .list), ("blocks", .list)]
  | .unlessMod => [("expression", .child), ("elements", .list)]
  | .untilLoop => [("expression", .child), ("statements", .child)]
  | .untilMod => [("expression", .child), ("statements", .child)]
  | .whenBranch => [("expression", .child), ("elements", .list), ("blocks", .list)]
  | .whileLoop => [("expression", .child), ("statements", .child)]
  | .whileMod => [("expression", .child), ("statements", .child)]

/-- Every kind, in the order of the tags. -/
def all : List Kind :=
  [.alias, .args, .array, .assoc, .binary, .block, .call, .caseOf, .char, .chainedBlock,
   .classDef, .classVariable, .classVariableAssignment, .constant, .constantAssignment,
   .definedTest, .elseBranch, .executableString, .float, .forLoop, .globalVariable,
   .globalVariableAssignment, .hash, .identifier, .ifBranch, .ifMod, .ifOp, .instanceVariable,
   .instanceVariableAssignment, .integer, .keyword, .label, .localVariableAssignment,
   .methodDef, .moduleDef, .multiAssignment, .multiAssignmentList, .params, .program, .range,
   .rescueMod, .rescueParams, .singletonClass, .splatArg, .statements, .string, .stringConcat,
   .symbol, .unary, .unlessBranch, .unlessMod, .untilLoop, .untilMod, .whenBranch, .whileLoop,
   .whileMod]

def ofTag? (tag : String) : Option Kind := all.find? fun k => k.tag == tag

theorem mem_all (k : Kind) : k ∈ all := by cases k <;> decide

/-- A kind is found under its own tag: no two kinds share one. -/
theorem ofTag?_tag (k : Kind) : ofTag? k.tag = some k := by cases k <;> decide

/-- Only its own tag finds a kind. -/
theorem tag_of_ofTag? {tag : String} {k : Kind} (h : ofTag? tag = some k) : k.tag = tag := by
  simpa using List.find?_some h

end Kind

end ScriptGate
