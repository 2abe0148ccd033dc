/-!
# Notes on members

The notes that come with members and kinds. Wrappers have the same notes in every kind. A member
that is not listed has no note.
-/

namespace TagOrder

/-- A note: the name of what it is on, the way that is called, and the lines of its description;
nothing stands for what is not told. -/
structure Note where
  name : String
  call : String
  description : List String
  deriving DecidableEq, Repr

namespace NoteTable

/-- The notes on wrappers and makers. -/
def wrappers : List Note :=
  [
    ⟨"__repr__", "($self, /)", ["Return repr(self)."]⟩,
    ⟨"__hash__", "($self, /)", ["Return hash(self)."]⟩,
    ⟨"__str__", "($self, /)", ["Return str(self)."]⟩,
    ⟨"__getattribute__", "($self, name, /)", ["Return getattr(self, name)."]⟩,
    ⟨"__lt__", "($self, value, /)", ["Return self<value."]⟩,
    ⟨"__le__", "($self, value, /)", ["Return self<=value."]⟩,
    ⟨"__eq__", "($self, value, /)", ["Return self==value."]⟩,
    ⟨"__ne__", "($self, value, /)", ["Return self!=value."]⟩,
    ⟨"__gt__", "($self, value, /)", ["Return self>value."]⟩,
    ⟨"__ge__", "($self, value, /)", ["Return self>=value."]⟩,
    ⟨"__iter__", "($self, /)", ["Implement iter(self)."]⟩,
    ⟨"__mod__", "($self, value, /)", ["Return self%value."]⟩,
    ⟨"__rmod__", "($self, value, /)", ["Return value%self."]⟩,
    ⟨"__len__", "($self, /)", ["Return len(self)."]⟩,
    ⟨"__getitem__", "($self, key, /)", ["Return self[key]."]⟩,
    ⟨"__add__", "($self, value, /)", ["Return self+value."]⟩,
    ⟨"__mul__", "($self, value, /)", ["Return self*value."]⟩,
    ⟨"__rmul__", "($self, value, /)", ["Return value*self."]⟩,
    ⟨"__contains__", "($self, key, /)", ["Return key in self."]⟩,
    ⟨"__setattr__", "($self, name, value, /)", ["Implement setattr(self, name, value)."]⟩,
    ⟨"__delattr__", "($self, name, /)", ["Implement delattr(self, name)."]⟩,
    ⟨"__init__", "($self, /, *args, **kwargs)",
    ["Initialize self.  See help(type(self)) for accurate signature."]⟩,
    ⟨"__call__", "($self, /, *args, **kwargs)", ["Call self as a function."]⟩,
    ⟨"__or__", "($self, value, /)", ["Return self|value."]⟩,
    ⟨"__ror__", "($self, value, /)", ["Return value|self."]⟩,
    ⟨"__radd__", "($self, value, /)", ["Return value+self."]⟩,
    ⟨"__sub__", "($self, value, /)", ["Return self-value."]⟩,
    ⟨"__rsub__", "($self, value, /)", ["Return value-self."]⟩,
    ⟨"__divmod__", "($self, value, /)", ["Return divmod(self, value)."]⟩,
    ⟨"__rdivmod__", "($self, value, /)", ["Return divmod(value, self)."]⟩,
    ⟨"__pow__", "($self, value, mod=None, /)", ["Return pow(self, value, mod)."]⟩,
    ⟨"__rpow__", "($self, value, mod=None, /)", ["Return pow(value, self, mod)."]⟩,
    ⟨"__neg__", "($self, /)", ["-self"]⟩,
    ⟨"__pos__", "($self, /)", ["+self"]⟩,
    ⟨"__abs__", "($self, /)", ["abs(self)"]⟩,
    ⟨"__bool__", "($self, /)", ["True if self else False"]⟩,
    ⟨"__invert__", "($self, /)", ["~self"]⟩,
    ⟨"__lshift__", "($self, value, /)", ["Return self<<value."]⟩,
    ⟨"__rlshift__", "($self, value, /)", ["Return value<<self."]⟩,
    ⟨"__rshift__", "($self, value, /)", ["Return self>>value."]⟩,
    ⟨"__rrshift__", "($self, value, /)", ["Return value>>self."]⟩,
    ⟨"__and__", "($self, value, /)", ["Return self&value."]⟩,
    ⟨"__rand__", "($self, value, /)", ["Return value&self."]⟩,
    ⟨"__xor__", "($self, value, /)", ["Return self^value."]⟩,
    ⟨"__rxor__", "($self, value, /)", ["Return value^self."]⟩,
    ⟨"__int__", "($self, /)", ["int(self)"]⟩,
    ⟨"__float__", "($self, /)", ["float(self)"]⟩,
    ⟨"__floordiv__", "($self, value, /)", ["Return self//value."]⟩,
    ⟨"__rfloordiv__", "($self, value, /)", ["Return value//self."]⟩,
    ⟨"__truediv__", "($self, value, /)", ["Return self/value."]⟩,
    ⟨"__rtruediv__", "($self, value, /)", ["Return value/self."]⟩,
    ⟨"__index__", "($self, /)",
    ["Return self converted to an integer, if self is suitable for use as an index into a list."]⟩,
    ⟨"__get__", "($self, instance, owner=None, /)",
    ["Return an attribute of instance, which is of type owner."]⟩,
    ⟨"__set__", "($self, instance, value, /)", ["Set an attribute of instance to value."]⟩,
    ⟨"__delete__", "($self, instance, /)", ["Delete an attribute of instance."]⟩,
    ⟨"__ior__", "($self, value, /)", ["Return self|=value."]⟩,
    ⟨"__setitem__", "($self, key, value, /)", ["Set self[key] to value."]⟩,
    ⟨"__delitem__", "($self, key, /)", ["Delete self[key]."]⟩,
    ⟨"__new__", "($type, *args, **kwargs)",
    ["Create and return a new object.  See help(type) for accurate signature."]⟩]

/-- The notes on the other members of `str`. -/
def text : List Note :=
  [
    ⟨"encode", "($self, /, encoding='utf-8', errors='strict')",
    ["Encode the string using the codec registered for encoding.", "", "  encoding",
     "    The encoding in which to encode the string.", "  errors",
     "    The error handling scheme to use for encoding errors.",
     "    The default is 'strict' meaning that encoding errors raise a",
     "    UnicodeEncodeError.  Other possible values are 'ignore', 'replace' and",
     "    'xmlcharrefreplace' as well as any other name registered with",
     "    codecs.register_error that can handle UnicodeEncodeErrors."]⟩,
    ⟨"replace", "($self, old, new, count=-1, /)",
    ["Return a copy with all occurrences of substring old replaced by new.", "", "  count",
     "    Maximum number of occurrences to replace.",
     "    -1 (the default value) means replace all occurrences.", "",
     "If the optional argument count is given, only the first count occurrences are",
     "replaced."]⟩,
    ⟨"split", "($self, /, sep=None, maxsplit=-1)",
    ["Return a list of the substrings in the string, using sep as the separator string.", "",
     "  sep", "    The separator used to split the string.", "",
     "    When set to None (the default value), will split on any whitespace",
     "    character (including \\n \\r \\t \\f and spaces) and will discard",
     "    empty strings from the result.", "  maxsplit", "    Maximum number of splits.",
     "    -1 (the default value) means no limit.", "",
     "Splitting starts at the front of the string and works to the end.", "",
     "Note, str.split() is mainly useful for data that has been intentionally",
     "delimited.  With natural text that includes punctuation, consider using",
     "the regular expression module."]⟩,
    ⟨"rsplit", "($self, /, sep=None, maxsplit=-1)",
    ["Return a list of the substrings in the string, using sep as the separator string.", "",
     "  sep", "    The separator used to split the string.", "",
     "    When set to None (the default value), will split on any whitespace",
     "    character (including \\n \\r \\t \\f and spaces) and will discard",
     "    empty strings from the result.", "  maxsplit", "    Maximum number of splits.",
     "    -1 (the default value) means no limit.", "",
     "Splitting starts at the end of the string and works to the front."]⟩,
    ⟨"join", "($self, iterable, /)",
    ["Concatenate any number of strings.", "",
     "The string whose method is called is inserted in between each given string.",
     "The result is returned as a new string.", "",
     "Example: '.'.join(['ab', 'pq', 'rs']) -> 'ab.pq.rs'"]⟩,
    ⟨"capitalize", "($self, /)",
    ["Return a capitalized version of the string.", "",
     "More specifically, make the first character have upper case and the rest lower", "case."]⟩,
    ⟨"casefold", "($self, /)",
    ["Return a version of the string suitable for caseless comparisons."]⟩,
    ⟨"title", "($self, /)",
    ["Return a version of the string where each word is titlecased.", "",
     "More specifically, words start with uppercased characters and all remaining",
     "cased characters have lower case."]⟩,
    ⟨"center", "($self, width, fillchar=' ', /)",
    ["Return a centered string of length width.", "",
     "Padding is done using the specified fill character (default is a space)."]⟩,
    ⟨"count", "",
    ["S.count(sub[, start[, end]]) -> int", "",
     "Return the number of non-overlapping occurrences of substring sub in",
     "string S[start:end].  Optional arguments start and end are",
     "interpreted as in slice notation."]⟩,
    ⟨"expandtabs", "($self, /, tabsize=8)",
    ["Return a copy where all tab characters are expanded using spaces.", "",
     "If tabsize is not given, a tab size of 8 characters is assumed."]⟩,
    ⟨"find", "",
    ["S.find(sub[, start[, end]]) -> int", "",
     "Return the lowest index in S where substring sub is found,",
     "such that sub is contained within S[start:end].  Optional",
     "arguments start and end are interpreted as in slice notation.", "",
     "Return -1 on failure."]⟩,
    ⟨"partition", "($self, sep, /)",
    ["Partition the string into three parts using the given separator.", "",
     "This will search for the separator in the string.  If the separator is found,",
     "returns a 3-tuple containing the part before the separator, the separator",
     "itself, and the part after it.", "",
     "If the separator is not found, returns a 3-tuple containing the original string",
     "and two empty strings."]⟩,
    ⟨"index", "",
    ["S.index(sub[, start[, end]]) -> int", "",
     "Return the lowest index in S where substring sub is found,",
     "such that sub is contained within S[start:end].  Optional",
     "arguments start and end are interpreted as in slice notation.", "",
     "Raises ValueError when the substring is not found."]⟩,
    ⟨"ljust", "($self, width, fillchar=' ', /)",
    ["Return a left-justified string of length width.", "",
     "Padding is done using the specified fill character (default is a space)."]⟩,
    ⟨"lower", "($self, /)", ["Return a copy of the string converted to lowercase."]⟩,
    ⟨"lstrip", "($self, chars=None, /)",
    ["Return a copy of the string with leading whitespace removed.", "",
     "If chars is given and not None, remove characters in chars instead."]⟩,
    ⟨"rfind", "",
    ["S.rfind(sub[, start[, end]]) -> int", "",
     "Return the highest index in S where substring sub is found,",
     "such that sub is contained within S[start:end].  Optional",
     "arguments start and end are interpreted as in slice notation.", "",
     "Return -1 on failure."]⟩,
    ⟨"rindex", "",
    ["S.rindex(sub[, start[, end]]) -> int", "",
     "Return the highest index in S where substring sub is found,",
     "such that sub is contained within S[start:end].  Optional",
     "arguments start and end are interpreted as in slice notation.", "",
     "Raises ValueError when the substring is not found."]⟩,
    ⟨"rjust", "($self, width, fillchar=' ', /)",
    ["Return a right-justified string of length width.", "",
     "Padding is done using the specified fill character (default is a space)."]⟩,
    ⟨"rstrip", "($self, chars=None, /)",
    ["Return a copy of the string with trailing whitespace removed.", "",
     "If chars is given and not None, remove characters in chars instead."]⟩,
    ⟨"rpartition", "($self, sep, /)",
    ["Partition the string into three parts using the given separator.", "",
     "This will search for the separator in the string, starting at the end. If",
     "the separator is found, returns a 3-tuple containing the part before the",
     "separator, the separator itself, and the part after it.", "",
     "If the separator is not found, returns a 3-tuple containing two empty strings",
     "and the original string."]⟩,
    ⟨"splitlines", "($self, /, keepends=False)",
    ["Return a list of the lines in the string, breaking at line boundaries.", "",
     "Line breaks are not included in the resulting list unless keepends is given and", "true."]⟩,
    ⟨"strip", "($self, chars=None, /)",
    ["Return a copy of the string with leading and trailing whitespace removed.", "",
     "If chars is given and not None, remove characters in chars instead."]⟩,
    ⟨"swapcase", "($self, /)",
    ["Convert uppercase characters to lowercase and lowercase characters to uppercase."]⟩,
    ⟨"translate", "($self, table, /)",
    ["Replace each character in the string using the given translation table.", "", "  table",
     "    Translation table, which must be a mapping of Unicode ordinals to",
     "    Unicode ordinals, strings, or None.", "",
     "The table must implement lookup/indexing via __getitem__, for instance a",
     "dictionary or list.  If this operation raises LookupError, the character is",
     "left untouched.  Characters mapped to None are deleted."]⟩,
    ⟨"upper", "($self, /)", ["Return a copy of the string converted to uppercase."]⟩,
    ⟨"startswith", "",
    ["S.startswith(prefix[, start[, end]]) -> bool", "",
     "Return True if S starts with the specified prefix, False otherwise.",
     "With optional start, test S beginning at that position.",
     "With optional end, stop comparing S at that position.",
     "prefix can also be a tuple of strings to try."]⟩,
    ⟨"endswith", "",
    ["S.endswith(suffix[, start[, end]]) -> bool", "",
     "Return True if S ends with the specified suffix, False otherwise.",
     "With optional start, test S beginning at that position.",
     "With optional end, stop comparing S at that position.",
     "suffix can also be a tuple of strings to try."]⟩,
    ⟨"removeprefix", "($self, prefix, /)",
    ["Return a str with the given prefix string removed if present.", "",
     "If the string starts with the prefix string, return string[len(prefix):].",
     "Otherwise, return a copy of the original string."]⟩,
    ⟨"removesuffix", "($self, suffix, /)",
    ["Return a str with the given suffix string removed if present.", "",
     "If the string ends with the suffix string and that suffix is not empty,",
     "return string[:-len(suffix)]. Otherwise, return a copy of the original", "string."]⟩,
    ⟨"isascii", "($self, /)",
    ["Return True if all characters in the string are ASCII, False otherwise.", "",
     "ASCII characters have code points in the range U+0000-U+007F.",
     "Empty string is ASCII too."]⟩,
    ⟨"islower", "($self, /)",
    ["Return True if the string is a lowercase string, False otherwise.", "",
     "A string is lowercase if all cased characters in the string are lowercase and",
     "there is at least one cased character in the string."]⟩,
    ⟨"isupper", "($self, /)",
    ["Return True if the string is an uppercase string, False otherwise.", "",
     "A string is uppercase if all cased characters in the string are uppercase and",
     "there is at least one cased character in the string."]⟩,
    ⟨"istitle", "($self, /)",
    ["Return True if the string is a title-cased string, False otherwise.", "",
     "In a title-cased string, upper- and title-case characters may only",
     "follow uncased characters and lowercase characters only cased ones."]⟩,
    ⟨"isspace", "($self, /)",
    ["Return True if the string is a whitespace string, False otherwise.", "",
     "A string is whitespace if all characters in the string are whitespace and there",
     "is at least one character in the string."]⟩,
    ⟨"isdecimal", "($self, /)",
    ["Return True if the string is a decimal string, False otherwise.", "",
     "A string is a decimal string if all characters in the string are decimal and",
     "there is at least one character in the string."]⟩,
    ⟨"isdigit", "($self, /)",
    ["Return True if the string is a digit string, False otherwise.", "",
     "A string is a digit string if all characters in the string are digits and there",
     "is at least one character in the string."]⟩,
    ⟨"isnumeric", "($self, /)",
    ["Return True if the string is a numeric string, False otherwise.", "",
     "A string is numeric if all characters in the string are numeric and there is at",
     "least one character in the string."]⟩,
    ⟨"isalpha", "($self, /)",
    ["Return True if the string is an alphabetic string, False otherwise.", "",
     "A string is alphabetic if all characters in the string are alphabetic and there",
     "is at least one character in the string."]⟩,
    ⟨"isalnum", "($self, /)",
    ["Return True if the string is an alpha-numeric string, False otherwise.", "",
     "A string is alpha-numeric if all characters in the string are alpha-numeric and",
     "there is at least one character in the string."]⟩,
    ⟨"isidentifier", "($self, /)",
    ["Return True if the string is a valid \x50ython identifier, False otherwise.", "",
     "Call keyword.iskeyword(s) to test whether string s is a reserved identifier,",
     "such as \"def\" or \"class\"."]⟩,
    ⟨"isprintable", "($self, /)",
    ["Return True if the string is printable, False otherwise.", "",
     "A string is printable if all of its characters are considered printable in",
     "repr() or if it is empty."]⟩,
    ⟨"zfill", "($self, width, /)",
    ["Pad a numeric string with zeros on the left, to fill a field of the given width.", "",
     "The string is never truncated."]⟩,
    ⟨"format", "",
    ["S.format(*args, **kwargs) -> str", "",
     "Return a formatted version of S, using substitutions from args and kwargs.",
     "The substitutions are identified by braces ('\x7b' and '\x7d')."]⟩,
    ⟨"format_map", "",
    ["S.format_map(mapping) -> str", "",
     "Return a formatted version of S, using substitutions from mapping.",
     "The substitutions are identified by braces ('\x7b' and '\x7d')."]⟩,
    ⟨"__format__", "($self, format_spec, /)",
    ["Return a formatted version of the string as described by format_spec."]⟩,
    ⟨"maketrans", "(x, y=<unrepresentable>, z=<unrepresentable>, /)",
    ["Return a translation table usable for str.translate().", "",
     "If there is only one argument, it must be a dictionary mapping Unicode",
     "ordinals (integers) or characters to Unicode ordinals, strings or None.",
     "Character keys will be then converted to ordinals.",
     "If there are two arguments, they must be strings of equal length, and",
     "in the resulting dictionary, each character in x will be mapped to the",
     "character at the same position in y. If there is a third argument, it",
     "must be a string, whose characters will be mapped to None in the result."]⟩,
    ⟨"__sizeof__", "($self, /)", ["Return the size of the string in memory, in bytes."]⟩]

/-- The notes on the other members of `object`. -/
def object : List Note :=
  [
    ⟨"__reduce_ex__", "($self, protocol, /)", ["Helper for pickle."]⟩,
    ⟨"__reduce__", "($self, /)", ["Helper for pickle."]⟩,
    ⟨"__getstate__", "($self, /)", ["Helper for pickle."]⟩,
    ⟨"__subclasshook__", "",
    ["Abstract classes can override this to customize issubclass().", "",
     "This is invoked early on by abc.ABCMeta.__subclasscheck__().",
     "It should return True, False or NotImplemented.  If it returns",
     "NotImplemented, the normal algorithm is used.  Otherwise, it",
     "overrides the normal algorithm (and the outcome is cached).", ""]⟩,
    ⟨"__init_subclass__", "",
    ["This method is called when a class is subclassed.", "",
     "The default implementation does nothing. It may be", "overridden to extend subclasses.",
     ""]⟩,
    ⟨"__format__", "($self, format_spec, /)", ["Default object formatter."]⟩,
    ⟨"__sizeof__", "($self, /)", ["Size of object in memory, in bytes."]⟩,
    ⟨"__dir__", "($self, /)", ["Default dir() implementation."]⟩,
    ⟨"__class__", "", ["the object's class"]⟩]

/-- The notes on the other members of `type`. -/
def type : List Note :=
  [
    ⟨"mro", "($self, /)", ["Return a type's method resolution order."]⟩,
    ⟨"__subclasses__", "($self, /)", ["Return a list of immediate subclasses."]⟩,
    ⟨"__prepare__", "",
    ["__prepare__() -> dict", "used to create the namespace for the class statement"]⟩,
    ⟨"__instancecheck__", "($self, instance, /)", ["Check if an object is an instance."]⟩,
    ⟨"__subclasscheck__", "($self, subclass, /)", ["Check if a class is a subclass."]⟩,
    ⟨"__dir__", "($self, /)", ["Specialized __dir__ implementation for types."]⟩,
    ⟨"__sizeof__", "($self, /)", ["Return memory consumption of the type object."]⟩]

/-- The notes on the other members of `tuple`. -/
def tuple : List Note :=
  [
    ⟨"__getnewargs__", "($self, /)", []⟩,
    ⟨"index", "($self, value, start=0, stop=sys.maxsize, /)",
    ["Return first index of value.", "", "Raises ValueError if the value is not present."]⟩,
    ⟨"count", "($self, value, /)", ["Return number of occurrences of value."]⟩,
    ⟨"__class_getitem__", "", ["See PEP 585"]⟩]

/-- The notes on the other members of `int`. -/
def number : List Note :=
  [
    ⟨"conjugate", "", ["Returns self, the complex conjugate of any int."]⟩,
    ⟨"bit_length", "($self, /)",
    ["Number of bits necessary to represent self in binary.", "", ">>> bin(37)", "'0b100101'",
     ">>> (37).bit_length()", "6"]⟩,
    ⟨"bit_count", "($self, /)",
    ["Number of ones in the binary representation of the absolute value of self.", "",
     "Also known as the population count.", "", ">>> bin(13)", "'0b1101'", ">>> (13).bit_count()",
     "3"]⟩,
    ⟨"to_bytes", "($self, /, length=1, byteorder='big', *, signed=False)",
    ["Return an array of bytes representing an integer.", "", "  length",
     "    Length of bytes object to use.  An OverflowError is raised if the",
     "    integer is not representable with the given number of bytes.  Default",
     "    is length 1.", "  byteorder",
     "    The byte order used to represent the integer.  If byteorder is 'big',",
     "    the most significant byte is at the beginning of the byte array.  If",
     "    byteorder is 'little', the most significant byte is at the end of the",
     "    byte array.  To request the native byte order of the host system, use",
     "    `sys.byteorder' as the byte order value.  Default is to use 'big'.", "  signed",
     "    Determines whether two's complement is used to represent the integer.",
     "    If signed is False and a negative integer is given, an OverflowError",
     "    is raised."]⟩,
    ⟨"from_bytes", "($type, /, bytes, byteorder='big', *, signed=False)",
    ["Return the integer represented by the given array of bytes.", "", "  bytes",
     "    Holds the array of bytes to convert.  The argument must either",
     "    support the buffer protocol or be an iterable object producing bytes.",
     "    Bytes and bytearray are examples of built-in objects that support the",
     "    buffer protocol.", "  byteorder",
     "    The byte order used to represent the integer.  If byteorder is 'big',",
     "    the most significant byte is at the beginning of the byte array.  If",
     "    byteorder is 'little', the most significant byte is at the end of the",
     "    byte array.  To request the native byte order of the host system, use",
     "    `sys.byteorder' as the byte order value.  Default is to use 'big'.", "  signed",
     "    Indicates whether two's complement is used to represent the integer."]⟩,
    ⟨"as_integer_ratio", "($self, /)",
    ["Return integer ratio.", "",
     "Return a pair of integers, whose ratio is exactly equal to the original int",
     "and with a positive denominator.", "", ">>> (10).as_integer_ratio()", "(10, 1)",
     ">>> (-10).as_integer_ratio()", "(-10, 1)", ">>> (0).as_integer_ratio()", "(0, 1)"]⟩,
    ⟨"__trunc__", "", ["Truncating an Integral returns itself."]⟩,
    ⟨"__floor__", "", ["Flooring an Integral returns itself."]⟩,
    ⟨"__ceil__", "", ["Ceiling of an Integral returns itself."]⟩,
    ⟨"__round__", "($self, ndigits=<unrepresentable>, /)",
    ["Rounding an Integral returns itself.", "",
     "Rounding with an ndigits argument also returns an integer."]⟩,
    ⟨"__getnewargs__", "($self, /)", []⟩,
    ⟨"__format__", "($self, format_spec, /)", []⟩,
    ⟨"__sizeof__", "($self, /)", ["Returns size in memory, in bytes."]⟩,
    ⟨"real", "", ["the real part of a complex number"]⟩,
    ⟨"imag", "", ["the imaginary part of a complex number"]⟩,
    ⟨"numerator", "", ["the numerator of a rational number in lowest terms"]⟩,
    ⟨"denominator", "", ["the denominator of a rational number in lowest terms"]⟩]

/-- The notes on the other members of `mappingproxy`. -/
def members : List Note :=
  [
    ⟨"get", "", ["D.get(k[,d]) -> D[k] if k in D, else d.  d defaults to None."]⟩,
    ⟨"keys", "", ["D.keys() -> a set-like object providing a view on D's keys"]⟩,
    ⟨"values", "", ["D.values() -> an object providing a view on D's values"]⟩,
    ⟨"items", "", ["D.items() -> a set-like object providing a view on D's items"]⟩,
    ⟨"copy", "", ["D.copy() -> a shallow copy of D"]⟩,
    ⟨"__class_getitem__", "", ["See PEP 585"]⟩,
    ⟨"__reversed__", "", ["D.__reversed__() -> reverse iterator"]⟩]

/-- The notes on the other members of `dict`. -/
def dictionary : List Note :=
  [
    ⟨"__getitem__", "", ["x.__getitem__(y) <==> x[y]"]⟩,
    ⟨"__contains__", "($self, key, /)",
    ["True if the dictionary has the specified key, else False."]⟩,
    ⟨"__sizeof__", "", ["D.__sizeof__() -> size of D in memory, in bytes"]⟩,
    ⟨"get", "($self, key, default=None, /)",
    ["Return the value for key if key is in the dictionary, else default."]⟩,
    ⟨"setdefault", "($self, key, default=None, /)",
    ["Insert key with a value of default if key is not in the dictionary.", "",
     "Return the value for key if key is in the dictionary, else default."]⟩,
    ⟨"pop", "($self, key, default=<unrepresentable>, /)",
    ["D.pop(k[,d]) -> v, remove specified key and return the corresponding value.", "",
     "If the key is not found, return the default if given; otherwise,", "raise a KeyError."]⟩,
    ⟨"popitem", "($self, /)",
    ["Remove and return a (key, value) pair as a 2-tuple.", "",
     "Pairs are returned in LIFO (last-in, first-out) order.",
     "Raises KeyError if the dict is empty."]⟩,
    ⟨"keys", "", ["D.keys() -> a set-like object providing a view on D's keys"]⟩,
    ⟨"items", "", ["D.items() -> a set-like object providing a view on D's items"]⟩,
    ⟨"values", "", ["D.values() -> an object providing a view on D's values"]⟩,
    ⟨"update", "",
    ["D.update([E, ]**F) -> None.  Update D from dict/iterable E and F.",
     "If E is present and has a .keys() method, then does:  for k in E: D[k] = E[k]",
     "If E is present and lacks a .keys() method, then does:  for k, v in E: D[k] = v",
     "In either case, this is followed by: for k in F:  D[k] = F[k]"]⟩,
    ⟨"fromkeys", "($type, iterable, value=None, /)",
    ["Create a new dictionary with keys from iterable and values set to value."]⟩,
    ⟨"clear", "", ["D.clear() -> None.  Remove all items from D."]⟩,
    ⟨"copy", "", ["D.copy() -> a shallow copy of D"]⟩,
    ⟨"__reversed__", "($self, /)", ["Return a reverse iterator over the dict keys."]⟩,
    ⟨"__class_getitem__", "", ["See PEP 585"]⟩]

/-- The notes on the other members of `types.GenericAlias`. -/
def generic : List Note :=
  [
    ⟨"__parameters__", "", ["Type variables in the GenericAlias."]⟩]

/-- The notes on kinds. -/
def kinds : List Note :=
  [
    ⟨"str", "",
    ["str(object='') -> str", "str(bytes_or_buffer[, encoding[, errors]]) -> str", "",
     "Create a new string object from the given object. If encoding or",
     "errors is specified, then the object must expose a data buffer",
     "that will be decoded using the given encoding and error handler.",
     "Otherwise, returns the result of object.__str__() (if defined)", "or repr(object).",
     "encoding defaults to sys.getdefaultencoding().", "errors defaults to 'strict'."]⟩,
    ⟨"object", "()",
    ["The base class of the class hierarchy.", "",
     "When called, it accepts no arguments and returns a new featureless",
     "instance that has no instance attributes and cannot be given any.", ""]⟩,
    ⟨"type", "",
    ["type(object) -> the object's type", "type(name, bases, dict, **kwds) -> a new type"]⟩,
    ⟨"tuple", "(iterable=(), /)",
    ["Built-in immutable sequence.", "",
     "If no argument is given, the constructor returns an empty tuple.",
     "If iterable is specified the tuple is initialized from iterable's items.", "",
     "If the argument is a tuple, the return value is the same object."]⟩,
    ⟨"int", "",
    ["int([x]) -> integer", "int(x, base=10) -> integer", "",
     "Convert a number or string to an integer, or return 0 if no arguments",
     "are given.  If x is a number, return x.__int__().  For floating point",
     "numbers, this truncates towards zero.", "",
     "If x is not a number or if base is given, then x must be a string,",
     "bytes, or bytearray instance representing an integer literal in the",
     "given base.  The literal can be preceded by '+' or '-' and be surrounded",
     "by whitespace.  The base defaults to 10.  Valid bases are 0 and 2-36.",
     "Base 0 means to interpret the base from the string as an integer literal.",
     ">>> int('0b100', base=0)", "4"]⟩,
    ⟨"bool", "",
    ["bool(x) -> bool", "", "Returns True when the argument x is true, False otherwise.",
     "The builtins True and False are the only two instances of the class bool.",
     "The class bool is a subclass of the class int, and cannot be subclassed."]⟩,
    ⟨"dict", "",
    ["dict() -> new empty dictionary",
     "dict(mapping) -> new dictionary initialized from a mapping object's",
     "    (key, value) pairs", "dict(iterable) -> new dictionary initialized as if via:",
     "    d = \x7b\x7d", "    for k, v in iterable:", "        d[k] = v",
     "dict(**kwargs) -> new dictionary initialized with the name=value pairs",
     "    in the keyword argument list.  For example:  dict(one=1, two=2)"]⟩,
    ⟨"staticmethod", "",
    ["staticmethod(function) -> method", "", "Convert a function to be a static method.", "",
     "A static method does not receive an implicit first argument.",
     "To declare a static method, use this idiom:", "", "     class C:", "         @staticmethod",
     "         def f(arg1, arg2, argN):", "             ...", "",
     "It can be called either on the class (e.g. C.f()) or on an instance",
     "(e.g. C().f()). Both the class and the instance are ignored, and",
     "neither is passed implicitly as the first argument to the method.", "",
     "Static methods in \x50ython are similar to those found in Java or C++.",
     "For a more advanced concept, see the classmethod builtin."]⟩,
    ⟨"types.GenericAlias", "",
    ["Represent a PEP 585 generic type", "",
     "E.g. for t = list[int], t.__origin__ is list and t.__args__ is (int,)."]⟩]

end NoteTable

end TagOrder
