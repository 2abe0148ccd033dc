/-!
# Member tables

What the kinds of items have as members of their own, in order. A line starts with what sort of
members it lists.
-/

namespace TagOrder

namespace MemberTable

/-- The members of `str`. -/
def text : List String :=
  ["maker __new__",
    "wrapper __repr__ __hash__ __str__ __getattribute__ __lt__ __le__ __eq__ __ne__ __gt__ __ge__",
    "wrapper __iter__ __mod__ __rmod__ __len__ __getitem__ __add__ __mul__ __rmul__ __contains__",
    "method encode replace split rsplit join capitalize casefold title center count expandtabs",
    "method find partition index ljust lower lstrip rfind rindex rjust rstrip rpartition",
    "method splitlines strip swapcase translate upper startswith endswith removeprefix",
    "method removesuffix isascii islower isupper istitle isspace isdecimal isdigit isnumeric",
    "method isalpha isalnum isidentifier isprintable zfill format format_map __format__",
    "free maketrans",
    "method __sizeof__ __getnewargs__",
    "constant __doc__"]

/-- The members of `object`. -/
def object : List String :=
  ["maker __new__",
    "wrapper __repr__ __hash__ __str__ __getattribute__ __setattr__ __delattr__ __lt__ __le__",
    "wrapper __eq__ __ne__ __gt__ __ge__ __init__",
    "method __reduce_ex__ __reduce__ __getstate__",
    "kindMethod __subclasshook__ __init_subclass__",
    "method __format__ __sizeof__ __dir__",
    "property __class__",
    "constant __doc__"]

/-- The members of `type`. -/
def type : List String :=
  ["maker __new__",
    "wrapper __repr__ __call__ __getattribute__ __setattr__ __delattr__ __init__ __or__ __ror__",
    "method mro __subclasses__",
    "kindMethod __prepare__",
    "method __instancecheck__ __subclasscheck__ __dir__ __sizeof__",
    "slot __basicsize__ __itemsize__ __flags__ __weakrefoffset__ __base__ __dictoffset__",
    "slot __mro__",
    "property __name__ __qualname__ __bases__ __module__ __abstractmethods__ __dict__ __doc__",
    "property __text_signature__ __annotations__"]

/-- The members of `tuple`. -/
def tuple : List String :=
  ["maker __new__",
    "wrapper __repr__ __hash__ __getattribute__ __lt__ __le__ __eq__ __ne__ __gt__ __ge__",
    "wrapper __iter__ __len__ __getitem__ __add__ __mul__ __rmul__ __contains__",
    "method __getnewargs__ index count",
    "kindMethod __class_getitem__",
    "constant __doc__"]

/-- The members of `int`. -/
def number : List String :=
  ["maker __new__",
    "wrapper __repr__ __hash__ __getattribute__ __lt__ __le__ __eq__ __ne__ __gt__ __ge__ __add__",
    "wrapper __radd__ __sub__ __rsub__ __mul__ __rmul__ __mod__ __rmod__ __divmod__ __rdivmod__",
    "wrapper __pow__ __rpow__ __neg__ __pos__ __abs__ __bool__ __invert__ __lshift__ __rlshift__",
    "wrapper __rshift__ __rrshift__ __and__ __rand__ __xor__ __rxor__ __or__ __ror__ __int__",
    "wrapper __float__ __floordiv__ __rfloordiv__ __truediv__ __rtruediv__ __index__",
    "method conjugate bit_length bit_count to_bytes",
    "kindMethod from_bytes",
    "method as_integer_ratio __trunc__ __floor__ __ceil__ __round__ __getnewargs__ __format__",
    "method __sizeof__",
    "property real imag numerator denominator",
    "constant __doc__"]

/-- The members of `bool`. -/
def truth : List String :=
  ["maker __new__",
    "wrapper __repr__ __and__ __rand__ __xor__ __rxor__ __or__ __ror__",
    "constant __doc__"]

/-- The members of `NoneType`. -/
def nothing : List String :=
  ["maker __new__",
    "wrapper __repr__ __bool__",
    "constant __doc__"]

/-- The members of `builtin_function_or_method`. -/
def method : List String :=
  ["wrapper __repr__ __hash__ __call__ __getattribute__ __lt__ __le__ __eq__ __ne__ __gt__",
    "wrapper __ge__",
    "method __reduce__",
    "slot __module__",
    "property __doc__ __name__ __qualname__ __self__ __text_signature__"]

/-- The members of `method-wrapper`. -/
def wrapper : List String :=
  ["wrapper __repr__ __hash__ __call__ __getattribute__ __lt__ __le__ __eq__ __ne__ __gt__",
    "wrapper __ge__",
    "method __reduce__",
    "slot __self__",
    "property __objclass__ __name__ __qualname__ __doc__ __text_signature__"]

/-- The members of `method_descriptor`. -/
def looseMethod : List String :=
  ["wrapper __repr__ __call__ __getattribute__ __get__",
    "method __reduce__",
    "slot __objclass__ __name__",
    "property __doc__ __qualname__ __text_signature__"]

/-- The members of `wrapper_descriptor`. -/
def looseWrapper : List String :=
  ["wrapper __repr__ __call__ __getattribute__ __get__",
    "method __reduce__",
    "slot __objclass__ __name__",
    "property __doc__ __qualname__ __text_signature__"]

/-- The members of `classmethod_descriptor`. -/
def looseKindMethod : List String :=
  ["wrapper __repr__ __call__ __getattribute__ __get__",
    "slot __objclass__ __name__",
    "property __doc__ __qualname__ __text_signature__"]

/-- The members of `getset_descriptor`. -/
def property : List String :=
  ["wrapper __repr__ __getattribute__ __get__ __set__ __delete__",
    "slot __objclass__ __name__",
    "property __doc__ __qualname__"]

/-- The members of `member_descriptor`. -/
def slot : List String :=
  ["wrapper __repr__ __getattribute__ __get__ __set__ __delete__",
    "method __reduce__",
    "slot __objclass__ __name__",
    "property __doc__ __qualname__"]

/-- The members of `mappingproxy`. -/
def members : List String :=
  ["maker __new__",
    "wrapper __repr__ __str__ __getattribute__ __lt__ __le__ __eq__ __ne__ __gt__ __ge__ __iter__",
    "wrapper __or__ __ror__ __ior__ __len__ __getitem__ __contains__",
    "method get keys values items copy",
    "kindMethod __class_getitem__",
    "method __reversed__",
    "constant __doc__ __hash__"]

/-- The members of `dict`. -/
def dictionary : List String :=
  ["maker __new__",
    "wrapper __repr__",
    "constant __hash__",
    "wrapper __getattribute__ __lt__ __le__ __eq__ __ne__ __gt__ __ge__ __iter__ __init__ __or__",
    "wrapper __ror__ __ior__ __len__",
    "method __getitem__",
    "wrapper __setitem__ __delitem__",
    "method __contains__ __sizeof__ get setdefault pop popitem keys items values update",
    "kindMethod fromkeys",
    "method clear copy __reversed__",
    "kindMethod __class_getitem__",
    "constant __doc__"]

/-- The members of `staticmethod`. -/
def free : List String :=
  ["maker __new__",
    "wrapper __repr__ __call__ __get__ __init__",
    "slot __func__ __wrapped__",
    "property __isabstractmethod__ __dict__",
    "constant __doc__"]

/-- The members of `types.GenericAlias`. -/
def generic : List String :=
  ["maker __new__",
    "wrapper __repr__ __hash__ __call__ __getattribute__ __lt__ __le__ __eq__ __ne__ __gt__",
    "wrapper __ge__ __iter__ __or__ __ror__ __getitem__",
    "method __mro_entries__ __instancecheck__ __subclasscheck__ __reduce__ __dir__",
    "slot __origin__ __args__ __unpacked__",
    "property __parameters__ __typing_unpacked_tuple_args__",
    "constant __doc__"]

end MemberTable

end TagOrder
