import TemplateHover.Symbol.Table

namespace TemplateHover.SymbolTable

/-- The functions that every template may use. -/
def builtinFunctions : List Symbol := [
  ⟨"template", "template $name $context",
    "Render the named template with the given context. The output cannot be piped."⟩,
  ⟨"include", "include $name $context",
    "Render the named template with the given context and return the result as a string, so it can be piped."⟩,
  ⟨"define", "define $name", "Declare a named template. Ends with \x7b\x7b end \x7d\x7d."⟩,
  ⟨"block", "block $name $context",
    "Define and execute a named template in place; it may be overridden elsewhere."⟩,
  ⟨"required", "required $message $value", "Fail rendering with $message if $value is empty."⟩,
  ⟨"tpl", "tpl $template $context",
    "Evaluate the string $template as a template with the given context."⟩,
  ⟨"toYaml", "toYaml $value", "Convert $value to a YAML string."⟩,
  ⟨"fromYaml", "fromYaml $str", "Parse a YAML string into a dictionary."⟩,
  ⟨"toJson", "toJson $value", "Convert $value to a JSON string."⟩,
  ⟨"fromJson", "fromJson $str", "Parse a JSON string into a dictionary."⟩,
  ⟨"toToml", "toToml $value", "Convert $value to a TOML string."⟩,
  ⟨"lookup", "lookup $apiVersion $kind $namespace $name",
    "Look up a resource in the running cluster. Returns an empty dictionary when not found."⟩,
  ⟨"and", "and $a $b", "Return the boolean AND of the arguments."⟩,
  ⟨"or", "or $a $b", "Return the boolean OR of the arguments."⟩,
  ⟨"not", "not $a", "Return the boolean negation of $a."⟩,
  ⟨"eq", "eq $a $b", "Return true if $a == $b."⟩,
  ⟨"ne", "ne $a $b", "Return true if $a != $b."⟩,
  ⟨"lt", "lt $a $b", "Return true if $a < $b."⟩,
  ⟨"le", "le $a $b", "Return true if $a <= $b."⟩,
  ⟨"gt", "gt $a $b", "Return true if $a > $b."⟩,
  ⟨"ge", "ge $a $b", "Return true if $a >= $b."⟩,
  ⟨"len", "len $collection", "Return the length of a string, list or dictionary."⟩,
  ⟨"index", "index $collection $key", "Return the element of $collection at $key."⟩,
  ⟨"print", "print $args...", "Concatenate the arguments into a string."⟩,
  ⟨"printf", "printf $format $args...", "Format the arguments according to $format."⟩,
  ⟨"default", "default $default $optional", "If $optional is not set, use $default."⟩,
  ⟨"empty", "empty $value", "Return true if $value is the zero value for its type."⟩,
  ⟨"coalesce", "coalesce $values...", "Return the first non-empty value."⟩,
  ⟨"ternary", "ternary $then $else $condition",
    "Return $then if $condition is true, otherwise $else."⟩,
  ⟨"fail", "fail $message", "Unconditionally fail rendering with $message."⟩,
  ⟨"quote", "quote $str", "Wrap a string in double quotes."⟩,
  ⟨"squote", "squote $str", "Wrap a string in single quotes."⟩,
  ⟨"upper", "upper $str", "Convert a string to upper case."⟩,
  ⟨"lower", "lower $str", "Convert a string to lower case."⟩,
  ⟨"title", "title $str", "Convert a string to title case."⟩,
  ⟨"trim", "trim $str", "Remove leading and trailing whitespace."⟩,
  ⟨"trimSuffix", "trimSuffix $suffix $str", "Remove $suffix from the end of $str."⟩,
  ⟨"trimPrefix", "trimPrefix $prefix $str", "Remove $prefix from the start of $str."⟩,
  ⟨"trunc", "trunc $length $str", "Truncate a string to $length characters."⟩,
  ⟨"replace", "replace $find $replace $str", "Replace every occurrence of $find with $replace."⟩,
  ⟨"repeat", "repeat $count $str", "Repeat a string $count times."⟩,
  ⟨"contains", "contains $needle $haystack", "Return true if $haystack contains $needle."⟩,
  ⟨"hasPrefix", "hasPrefix $prefix $str", "Return true if $str begins with $prefix."⟩,
  ⟨"hasSuffix", "hasSuffix $suffix $str", "Return true if $str ends with $suffix."⟩,
  ⟨"indent", "indent $count $str", "Indent every line of $str by $count spaces."⟩,
  ⟨"nindent", "nindent $count $str",
    "Prepend a newline, then indent every line of $str by $count spaces."⟩,
  ⟨"b64enc", "b64enc $str", "Encode a string with base64."⟩,
  ⟨"b64dec", "b64dec $str", "Decode a base64 string."⟩,
  ⟨"sha256sum", "sha256sum $str", "Return the hex SHA-256 digest of a string."⟩,
  ⟨"randAlphaNum", "randAlphaNum $count",
    "Generate a random alphanumeric string of $count characters."⟩,
  ⟨"regexMatch", "regexMatch $regex $str", "Return true if $str matches $regex."⟩,
  ⟨"regexReplaceAll", "regexReplaceAll $regex $str $replacement",
    "Replace every match of $regex in $str with $replacement."⟩,
  ⟨"toString", "toString $value", "Convert $value to a string."⟩,
  ⟨"int", "int $value", "Convert $value to an int."⟩,
  ⟨"int64", "int64 $value", "Convert $value to an int64."⟩,
  ⟨"float64", "float64 $value", "Convert $value to a float64."⟩,
  ⟨"atoi", "atoi $str", "Convert a string to an integer."⟩,
  ⟨"list", "list $items...", "Create a list of the given items."⟩,
  ⟨"first", "first $list", "Return the first item of a list."⟩,
  ⟨"last", "last $list", "Return the last item of a list."⟩,
  ⟨"append", "append $list $item", "Return a new list with $item appended."⟩,
  ⟨"has", "has $item $list", "Return true if $list contains $item."⟩,
  ⟨"join", "join $separator $list", "Join a list of strings with $separator."⟩,
  ⟨"split", "split $separator $str", "Split a string into a dictionary keyed _0, _1, ..."⟩,
  ⟨"splitList", "splitList $separator $str", "Split a string into a list."⟩,
  ⟨"uniq", "uniq $list", "Return a list with duplicates removed."⟩,
  ⟨"until", "until $count", "Return a list of integers from 0 up to $count."⟩,
  ⟨"dict", "dict $key1 $value1 $key2 $value2...", "Create a dictionary from key/value pairs."⟩,
  ⟨"get", "get $dict $key", "Return the value stored at $key, or an empty string."⟩,
  ⟨"set", "set $dict $key $value", "Store $value at $key and return the dictionary."⟩,
  ⟨"unset", "unset $dict $key", "Remove $key from the dictionary and return it."⟩,
  ⟨"hasKey", "hasKey $dict $key", "Return true if the dictionary contains $key."⟩,
  ⟨"keys", "keys $dict...", "Return the keys of one or more dictionaries."⟩,
  ⟨"merge", "merge $dest $src...",
    "Merge source dictionaries into $dest; existing keys in $dest win."⟩,
  ⟨"mergeOverwrite", "mergeOverwrite $dest $src...",
    "Merge source dictionaries into $dest; source keys win."⟩,
  ⟨"pick", "pick $dict $keys...", "Return a dictionary holding only the given keys."⟩,
  ⟨"omit", "omit $dict $keys...", "Return a dictionary without the given keys."⟩,
  ⟨"deepCopy", "deepCopy $value", "Return a deep copy of $value."⟩,
  ⟨"now", "now", "Return the current time."⟩,
  ⟨"date", "date $format $time", "Format a time using a Go layout string."⟩,
  ⟨"semverCompare", "semverCompare $constraint $version",
    "Return true if $version satisfies $constraint."⟩,
  ⟨"uuidv4", "uuidv4", "Generate a random UUID (v4)."⟩,
  ⟨"kindIs", "kindIs $kind $value", "Return true if $value is of the given Go kind."⟩,
  ⟨"typeOf", "typeOf $value", "Return the Go type name of $value."⟩]

/-- The values that every template may use. -/
def builtinValues : List Symbol := [
  ⟨"Release", ".Release", "Built-in release information, such as the release name and namespace."⟩,
  ⟨"Values", ".Values", "User-supplied values passed into the chart, defaulting to values.yaml."⟩,
  ⟨"Chart", ".Chart", "The contents of Chart.yaml."⟩,
  ⟨"Files", ".Files", "Access to non-template files in the chart."⟩,
  ⟨"Capabilities", ".Capabilities",
    "Information about the capabilities of the Kubernetes cluster."⟩,
  ⟨"Template", ".Template", "Information about the template being rendered."⟩]

/-- The symbols that every template may use. -/
def builtin : SymbolTable :=
  ⟨builtinFunctions, builtinValues⟩

end TemplateHover.SymbolTable
