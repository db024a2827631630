/-!
# Tags and forms

The tag of a debugging information entry says what the entry describes, and the
form of an attribute how its value is written.  Only the tags and forms that
matter here are told apart.
-/

namespace DebugIndex

/-- What a debugging information entry describes.  Any other tag is kept by name;
an entry can also lack a tag. -/
inductive Tag
  | compileUnit
  | variableObject
  | formalParameter
  | subprogram
  | member
  | baseType
  | typedef
  | unionType
  | structureType
  | pointerType
  | constType
  | arrayType
  | subrangeType
  | subroutineType
  | enumerationType
  | other (name : Option String)
  deriving DecidableEq

namespace Tag

def ofName : Option String → Tag
  | some "DW_TAG_compile_unit" => .compileUnit
  | some "DW_TAG_variable" => .variableObject
  | some "DW_TAG_formal_parameter" => .formalParameter
  | some "DW_TAG_subprogram" => .subprogram
  | some "DW_TAG_member" => .member
  | some "DW_TAG_base_type" => .baseType
  | some "DW_TAG_typedef" => .typedef
  | some "DW_TAG_union_type" => .unionType
  | some "DW_TAG_structure_type" => .structureType
  | some "DW_TAG_pointer_type" => .pointerType
  | some "DW_TAG_const_type" => .constType
  | some "DW_TAG_array_type" => .arrayType
  | some "DW_TAG_subrange_type" => .subrangeType
  | some "DW_TAG_subroutine_type" => .subroutineType
  | some "DW_TAG_enumeration_type" => .enumerationType
  | name => .other name

/-- The name of a tag, if the entry has one. -/
def name? : Tag → Option String
  | .compileUnit => some "DW_TAG_compile_unit"
  | .variableObject => some "DW_TAG_variable"
  | .formalParameter => some "DW_TAG_formal_parameter"
  | .subprogram => some "DW_TAG_subprogram"
  | .member => some "DW_TAG_member"
  | .baseType => some "DW_TAG_base_type"
  | .typedef => some "DW_TAG_typedef"
  | .unionType => some "DW_TAG_union_type"
  | .structureType => some "DW_TAG_structure_type"
  | .pointerType => some "DW_TAG_pointer_type"
  | .constType => some "DW_TAG_const_type"
  | .arrayType => some "DW_TAG_array_type"
  | .subrangeType => some "DW_TAG_subrange_type"
  | .subroutineType => some "DW_TAG_subroutine_type"
  | .enumerationType => some "DW_TAG_enumeration_type"
  | .other name => name

def text (tag : Tag) : String :=
  tag.name?.getD "None"

/-- Whether entries with this tag go into the type table. -/
def isType : Tag → Bool
  | .baseType | .typedef | .unionType | .structureType | .pointerType | .constType
  | .arrayType | .subrangeType | .subroutineType | .enumerationType => true
  | _ => false

/-- Whether entries with this tag have members. -/
def isAggregate : Tag → Bool
  | .structureType | .unionType => true
  | _ => false

def isLocal : Tag → Bool
  | .formalParameter | .variableObject => true
  | _ => false

end Tag

/-- How the value of an attribute is to be understood, judged by its form. -/
inductive FormClass
  | unsignedConstant
  | signedConstant
  | block
  | localReference
  | globalReference
  | other
  deriving DecidableEq

namespace FormClass

def ofName : String → FormClass
  | "DW_FORM_data1" | "DW_FORM_data2" | "DW_FORM_data4" | "DW_FORM_data8"
  | "DW_FORM_udata" => .unsignedConstant
  | "DW_FORM_sdata" | "DW_FORM_implicit_const" => .signedConstant
  | "DW_FORM_block" | "DW_FORM_block1" | "DW_FORM_block2" | "DW_FORM_block4"
  | "DW_FORM_exprloc" => .block
  | "DW_FORM_ref1" | "DW_FORM_ref2" | "DW_FORM_ref4" | "DW_FORM_ref8"
  | "DW_FORM_ref_udata" => .localReference
  | "DW_FORM_ref_addr" => .globalReference
  | _ => .other

end FormClass
end DebugIndex
