namespace SourceAtlas

inductive SymbolKind where
  | packageName
  | moduleDoc
  | namespaceBlock
  | classType
  | dataClass
  | record
  | sealedClass
  | enumClass
  | object
  | structType
  | interface
  | protocol
  | enumType
  | enumCase
  | enumConstant
  | unionType
  | typedef
  | namedType
  | typeAlias
  | category
  | implementation
  | extension
  | annotationType
  | template
  | classTemplate
  | functionTemplate
  | objectMacro
  | functionMacro
  | function
  | asyncFunction
  | generatorFunction
  | arrowFunction
  | asyncArrowFunction
  | staticFunction
  | inlineFunction
  | functionDeclaration
  | extensionFunction
  | suspendFunction
  | method
  | staticMethod
  | asyncMethod
  | classMethod
  | virtualMethod
  | suspendMethod
  | methodImplementation
  | constructor
  | operator
  | field
  | property
  | staticProperty
  | propertyObserver
  | exportStatement
  deriving DecidableEq

namespace SymbolKind

def all : List SymbolKind :=
  [.packageName, .moduleDoc, .namespaceBlock, .classType, .dataClass, .record, .sealedClass, .enumClass,
   .object, .structType, .interface, .protocol, .enumType, .enumCase, .enumConstant, .unionType, .typedef,
   .namedType, .typeAlias, .category, .implementation, .extension, .annotationType, .template,
   .classTemplate, .functionTemplate, .objectMacro, .functionMacro, .function, .asyncFunction,
   .generatorFunction, .arrowFunction, .asyncArrowFunction, .staticFunction, .inlineFunction,
   .functionDeclaration, .extensionFunction, .suspendFunction, .method, .staticMethod, .asyncMethod,
   .classMethod, .virtualMethod, .suspendMethod, .methodImplementation, .constructor, .operator, .field,
   .property, .staticProperty, .propertyObserver, .exportStatement]

def name : SymbolKind → String
  | .packageName => "package"
  | .moduleDoc => "module"
  | .namespaceBlock => "namespace"
  | .classType => "class"
  | .dataClass => "data_class"
  | .record => "record"
  | .sealedClass => "sealed_class"
  | .enumClass => "enum_class"
  | .object => "object"
  | .structType => "struct"
  | .interface => "interface"
  | .protocol => "protocol"
  | .enumType => "enum"
  | .enumCase => "enum_case"
  | .enumConstant => "enum_constant"
  | .unionType => "union"
  | .typedef => "typedef"
  | .namedType => "type"
  | .typeAlias => "type_alias"
  | .category => "category"
  | .implementation => "implementation"
  | .extension => "extension"
  | .annotationType => "annotation"
  | .template => "template"
  | .classTemplate => "class_template"
  | .functionTemplate => "function_template"
  | .objectMacro => "macro"
  | .functionMacro => "function_macro"
  | .function => "function"
  | .asyncFunction => "async_function"
  | .generatorFunction => "generator_function"
  | .arrowFunction => "arrow_function"
  | .asyncArrowFunction => "async_arrow_function"
  | .staticFunction => "static_function"
  | .inlineFunction => "inline_function"
  | .functionDeclaration => "function_declaration"
  | .extensionFunction => "extension_function"
  | .suspendFunction => "suspend_function"
  | .method => "method"
  | .staticMethod => "static_method"
  | .asyncMethod => "async_method"
  | .classMethod => "class_method"
  | .virtualMethod => "virtual_method"
  | .suspendMethod => "suspend_method"
  | .methodImplementation => "method_implementation"
  | .constructor => "constructor"
  | .operator => "operator"
  | .field => "field"
  | .property => "property"
  | .staticProperty => "static_property"
  | .propertyObserver => "property_observer"
  | .exportStatement => "export"

def title : SymbolKind → String
  | .packageName => "Package"
  | .moduleDoc => "Module"
  | .namespaceBlock => "Namespace"
  | .classType => "Class"
  | .dataClass => "DataClass"
  | .record => "Record"
  | .sealedClass => "SealedClass"
  | .enumClass => "EnumClass"
  | .object => "Object"
  | .structType => "Struct"
  | .interface => "Interface"
  | .protocol => "Protocol"
  | .enumType => "Enum"
  | .enumCase => "EnumCase"
  | .enumConstant => "EnumConstant"
  | .unionType => "Union"
  | .typedef => "Typedef"
  | .namedType => "Type"
  | .typeAlias => "TypeAlias"
  | .category => "Category"
  | .implementation => "Implementation"
  | .extension => "Extension"
  | .annotationType => "Annotation"
  | .template => "Template"
  | .classTemplate => "ClassTemplate"
  | .functionTemplate => "FunctionTemplate"
  | .objectMacro => "Macro"
  | .functionMacro => "FunctionMacro"
  | .function => "Function"
  | .asyncFunction => "AsyncFunction"
  | .generatorFunction => "GeneratorFunction"
  | .arrowFunction => "ArrowFunction"
  | .asyncArrowFunction => "AsyncArrowFunction"
  | .staticFunction => "StaticFunction"
  | .inlineFunction => "InlineFunction"
  | .functionDeclaration => "FunctionDeclaration"
  | .extensionFunction => "ExtensionFunction"
  | .suspendFunction => "SuspendFunction"
  | .method => "Method"
  | .staticMethod => "StaticMethod"
  | .asyncMethod => "AsyncMethod"
  | .classMethod => "ClassMethod"
  | .virtualMethod => "VirtualMethod"
  | .suspendMethod => "SuspendMethod"
  | .methodImplementation => "MethodImplementation"
  | .constructor => "Constructor"
  | .operator => "Operator"
  | .field => "Field"
  | .property => "Property"
  | .staticProperty => "StaticProperty"
  | .propertyObserver => "PropertyObserver"
  | .exportStatement => "Export"

def isFunctionDefinition : SymbolKind → Bool
  | .function | .staticFunction | .inlineFunction => true
  | _ => false

def isMethod : SymbolKind → Bool
  | .method | .staticMethod | .asyncMethod | .classMethod | .virtualMethod | .suspendMethod
  | .methodImplementation | .constructor => true
  | _ => false

def isClassLike : SymbolKind → Bool
  | .classType | .structType => true
  | _ => false

end SymbolKind

/-- A stretch of a source. Lines and columns count from one, columns in bytes; byte offsets count from zero
and the end is exclusive. -/
structure Span where
  startLine : UInt32 := 0
  startColumn : UInt32 := 0
  endLine : UInt32 := 0
  endColumn : UInt32 := 0
  startByte : UInt64 := 0
  endByte : UInt64 := 0
  deriving DecidableEq

structure Symbol where
  name : String
  kind : SymbolKind
  signature : String
  span : Span
  docstring : String := ""
  children : List Symbol := []

namespace Symbol

def child? (s : Symbol) (name : String) : Option Symbol := s.children.find? (·.name == name)

end Symbol

end SourceAtlas
