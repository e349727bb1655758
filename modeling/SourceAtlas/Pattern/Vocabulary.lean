import SourceAtlas.Language

namespace SourceAtlas.Grammar

def goKinds : List String :=
  ["source_file", "package_clause", "package_identifier", "import_spec", "function_declaration",
    "method_declaration", "parameter_list", "parameter_declaration", "type_spec", "type_alias", "struct_type",
    "interface_type", "field_declaration_list", "field_declaration", "method_elem", "call_expression",
    "selector_expression", "identifier", "field_identifier", "type_identifier", "comment"]

def javaScriptKinds : List String :=
  ["program", "import_statement", "export_statement", "string", "arguments", "call_expression",
    "member_expression", "function_declaration", "generator_function_declaration", "function_expression",
    "arrow_function", "variable_declarator", "class_declaration", "class_body", "class_heritage",
    "method_definition", "field_definition", "identifier", "property_identifier", "comment"]

def typeScriptKinds : List String :=
  javaScriptKinds ++
    ["abstract_class_declaration", "interface_declaration", "type_alias_declaration", "type_identifier",
      "extends_clause", "implements_clause", "public_field_definition", "method_signature",
      "property_signature"]

def pythonKinds : List String :=
  ["module", "import_statement", "import_from_statement", "dotted_name", "aliased_import", "relative_import",
    "function_definition", "class_definition", "decorated_definition", "argument_list", "block",
    "expression_statement", "assignment", "string", "call", "attribute", "identifier", "comment"]

def javaKinds : List String :=
  ["program", "package_declaration", "import_declaration", "scoped_identifier", "class_declaration",
    "interface_declaration", "enum_declaration", "enum_constant", "record_declaration",
    "annotation_type_declaration", "marker_annotation", "annotation", "method_declaration",
    "constructor_declaration", "field_declaration", "variable_declarator", "method_invocation",
    "object_creation_expression", "generic_type", "scoped_type_identifier", "type_identifier", "identifier",
    "line_comment", "block_comment"]

def kotlinKinds : List String :=
  ["source_file", "package_header", "import", "qualified_identifier", "identifier", "class_declaration",
    "object_declaration", "companion_object", "function_declaration", "property_declaration",
    "variable_declaration", "type_alias", "enum_entry", "modifiers", "annotation", "user_type",
    "constructor_invocation", "delegation_specifiers", "delegation_specifier", "call_expression",
    "navigation_expression", "line_comment", "block_comment"]

def swiftKinds : List String :=
  ["source_file", "import_declaration", "identifier", "simple_identifier", "type_identifier", "user_type",
    "class_declaration", "protocol_declaration", "function_declaration", "protocol_function_declaration",
    "init_declaration", "property_declaration", "enum_entry", "typealias_declaration",
    "inheritance_specifier", "call_expression", "navigation_expression", "navigation_suffix", "comment",
    "multiline_comment"]

def cKinds : List String :=
  ["translation_unit", "preproc_include", "preproc_def", "preproc_function_def", "system_lib_string",
    "string_literal", "struct_specifier", "union_specifier", "enum_specifier", "enumerator",
    "type_definition", "declaration", "field_declaration_list", "field_declaration", "function_definition",
    "function_declarator", "pointer_declarator", "parenthesized_declarator", "storage_class_specifier",
    "call_expression", "field_expression", "identifier", "field_identifier", "type_identifier", "comment"]

def cppKinds : List String :=
  cKinds ++
    ["namespace_definition", "namespace_identifier", "class_specifier", "base_class_clause",
      "access_specifier", "template_declaration", "template_type", "template_function", "operator_name",
      "destructor_name", "qualified_identifier", "reference_declarator", "virtual", "alias_declaration"]

def objCKinds : List String :=
  cKinds ++
    ["class_interface", "class_implementation", "category_interface", "category_implementation",
      "protocol_declaration", "property_declaration", "method_declaration", "method_definition",
      "method_parameter", "keyword_argument", "message_expression"]

def hasKind : Grammar → String → Bool
  | .go => goKinds.contains
  | .javaScript => javaScriptKinds.contains
  | .typeScript | .tsx => typeScriptKinds.contains
  | .python => pythonKinds.contains
  | .kotlin => kotlinKinds.contains
  | .java => javaKinds.contains
  | .swift => swiftKinds.contains
  | .objC => objCKinds.contains
  | .c => cKinds.contains
  | .cpp => cppKinds.contains

end SourceAtlas.Grammar
