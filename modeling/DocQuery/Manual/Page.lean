/-!
The pages of the manual, line by line.
-/

namespace DocQuery.Manual

def overviewPage : List String := [
  "QUARRY DOCUMENTATION",
  "",
  "Quarry runs small declarative queries over a collection of documents. A query",
  "picks documents with FROM, narrows and reshapes them with WHERE, SORT, GROUP BY,",
  "FLATTEN and LIMIT, and renders them as a TABLE, LIST, TASK list or CALENDAR.",
  "Expressions can also be evaluated on their own.",
  "",
  "DOCUMENTATION CATEGORIES",
  "",
  "  syntax       Literals, field access, indexing, function calls",
  "  operators    Arithmetic, comparison, and logical operators",
  "  functions    Constructors, numbers, lists, and utility functions",
  "  strings      Text and regular-expression functions",
  "  dates        Date literals, durations, and date arithmetic",
  "  queries      Query shapes and pipeline clauses",
  "  sources      FROM clauses: tags, folders, and links",
  "  types        Value types, truthiness, and ordering",
  "",
  "QUICK REFERENCE",
  "",
  "  TABLE a, b AS \"B\"     Table with two columns",
  "  LIST WITHOUT ID x     List of values without document links",
  "  FROM #tag and \"dir\"   Documents tagged #tag inside dir",
  "  WHERE x > 1           Keep matching rows",
  "  SORT x DESC           Order rows",
  "  GROUP BY x            One row per distinct x, with rows",
  "  file.name             Field access",
  "  this.field            Field of the document running the query",
  "",
  "Run 'quarry doc <category>' for detailed documentation."]

def expressionsPage : List String := [
  "SYNTAX - Expressions",
  "",
  "LITERALS",
  "  42, 3.5, -2          Numbers",
  "  \"text\"               Strings (escapes: \\\" \\\\ \\n \\t)",
  "  true, false, null    Booleans and null (case-insensitive)",
  "  [[Page]]             Link to a document; [[Page#Header]], [[Page#^block]]",
  "  ![[Image.png]]       Embedded link",
  "  #tag                 A tag, read as the string \"#tag\"",
  "  date(2021-04-18)     Date literal (see 'quarry doc dates')",
  "  dur(3 days)          Duration literal",
  "  [1, 2, 3]            List",
  "  \x7b a: 1, \"b c\": 2 \x7d   Object",
  "",
  "FIELD ACCESS",
  "  name",
  "    A field of the current row. Unknown names are null.",
  "",
  "  row.name",
  "    The row itself, for names that collide with keywords.",
  "",
  "  this.name",
  "    A field of the document the query is written in.",
  "",
  "  file.name",
  "    Nested access. Accessing a field of a link looks the linked document",
  "    up first, so [[Page]].status reads Page's status.",
  "",
  "  list.name",
  "    On a list, maps the access over every element.",
  "",
  "    Example:",
  "      rows.file.name      Names of every document in a group",
  "",
  "INDEXING",
  "  value[0]               Zero-based list or string index",
  "  value[\"key\"]           Object key; same as value.key",
  "  date.year              Date components",
  "  duration.days          Duration components",
  "",
  "    Constraints:",
  "      - Out-of-range and negative indices give null",
  "      - Indexing null gives null",
  "",
  "FUNCTION CALLS",
  "  lower(name)",
  "  default(due, date(today))",
  "",
  "    Function names are case-insensitive. See 'quarry doc functions'.",
  "",
  "NEGATION",
  "  !done       Logical not",
  "  -amount     Numeric or duration negation"]

def operatorsPage : List String := [
  "OPERATORS - Arithmetic, Comparison, and Logic",
  "",
  "PRECEDENCE (lowest first)",
  "  and or           Logical; also & and |",
  "  = != < <= > >=   Comparison; == is the same as =",
  "  + -              Additive",
  "  * / %            Multiplicative",
  "",
  "ARITHMETIC",
  "  number + number         12 + 8 - 4 / 2        => 18",
  "  string + any            \"a\" + 1               => \"a1\"",
  "  string * number         \"ab\" * 2              => \"abab\"",
  "  list + list             [1] + [2]             => [1, 2]",
  "  object + object         \x7ba: 1\x7d + \x7bb: 2\x7d       => \x7ba: 1, b: 2\x7d",
  "  date - date             duration between them",
  "  date + duration         shifted date",
  "  duration * number       scaled duration",
  "",
  "    Constraints:",
  "      - Division and modulo by zero are errors",
  "      - Arithmetic with null gives null",
  "",
  "COMPARISON",
  "  Every pair of values can be compared. Values of different types order by",
  "  type: null < boolean < number < string < date < duration < link < list",
  "  < object. Strings compare case-insensitively first.",
  "",
  "    Example:",
  "      \"apple\" < \"Banana\"    => true",
  "      null < 0              => true",
  "      [[a]] = [[a.md]]      => true when both name the same document",
  "",
  "LOGICAL",
  "  a and b, a or b",
  "    Combine truthiness. Both sides are always evaluated."]

def functionsPage : List String := [
  "FUNCTIONS - Built-in Library",
  "",
  "Functions marked (vectorized) apply element-wise when given a list in the",
  "marked position: lower([\"A\", \"B\"]) => [\"a\", \"b\"].",
  "",
  "CONSTRUCTORS",
  "  list(a, b, ...)              A list; also array(...)",
  "  object(k1, v1, ...)          An object from key/value pairs",
  "  link(path, [display])        A link (vectorized)",
  "  embed(link, [bool])          Mark a link as embedded (vectorized)",
  "  elink(url, [display])        An external link (vectorized)",
  "  date(text, [format])         Parse a date (vectorized)",
  "  dur(text)                    Parse a duration (vectorized)",
  "  number(text)                 First number in a string (vectorized)",
  "  string(value)                Render any value as text",
  "",
  "NUMBERS",
  "  round(n, [digits])           Half away from zero (vectorized)",
  "  floor(n), ceil(n)            (vectorized)",
  "  min(a, b, ...), max(...)     Also accept one list",
  "  sum(list), product(list)     Nulls are skipped; empty gives null",
  "  average(list)                Mean of the non-null elements",
  "  reduce(list, op)             Fold with \"+\", \"-\", \"*\", \"/\", \"&\" or \"|\"",
  "",
  "LISTS",
  "  length(value)                Length of a list, object, or string",
  "  contains(haystack, needle)   Fuzzy: substring match on strings, any",
  "                               element on lists, key on objects",
  "  icontains(haystack, needle)  Case-insensitive contains",
  "  econtains(haystack, needle)  Exact: whole elements only",
  "  extract(object, k1, ...)     Object with only the given keys",
  "  sort(list), reverse(list)",
  "  unique(list)                 Drop duplicates, keeping first occurrences",
  "  nonnull(list)                Drop nulls",
  "  flat(list, [depth])          Flatten nested lists",
  "  join(list, [separator])      Render and join; separator defaults to \", \"",
  "  any(list), all(list), none(list)",
  "",
  "UTILITY",
  "  default(value, fallback)     fallback when value is null (vectorized)",
  "  ldefault(value, fallback)    Same, never vectorized",
  "  choice(cond, a, b)           a if cond is truthy, else b (vectorized)",
  "  typeof(value)                \"number\", \"string\", \"link\", ...",
  "  isnull(value)",
  "  meta(link)                   \x7bpath, display, subpath, type, embed\x7d",
  "",
  "    Example:",
  "      default(list(1, null), 2)     => [1, 2]",
  "      ldefault(list(1, null), 2)    => [1, null]"]

def textsPage : List String := [
  "STRINGS - Text and Regular Expressions",
  "",
  "CASE AND SEARCH",
  "  lower(s), upper(s)           (vectorized)",
  "  startswith(s, prefix)",
  "  endswith(s, suffix)",
  "  containsword(s, word)        Whole-word, case-insensitive (vectorized)",
  "",
  "EDITING",
  "  replace(s, from, to)         Replace every occurrence (vectorized)",
  "  split(s, pattern, [limit])   Split on a regular expression",
  "  substring(s, start, [end])",
  "  truncate(s, length, [suffix])  Suffix defaults to \"...\"",
  "  padleft(s, length, [pad]), padright(s, length, [pad])",
  "",
  "REGULAR EXPRESSIONS",
  "  regexmatch(pattern, s)       The whole string must match (vectorized on s)",
  "  regextest(pattern, s)        Any part may match (vectorized on s)",
  "  regexreplace(s, pattern, to) Replace every match (vectorized)",
  "",
  "    Example:",
  "      regexmatch(\".+\", \"\")          => false",
  "      regexmatch(\".*\", \"\")          => true",
  "      regextest(\"o\", \"foo\")         => true",
  "      regexreplace(\"a1b2\", \"[0-9]\", \"\") => \"ab\"",
  "",
  "    Constraints:",
  "      - An invalid pattern is an evaluation error"]

def datesPage : List String := [
  "DATES - Dates and Durations",
  "",
  "DATE LITERALS",
  "  date(2021-04-18)",
  "  date(2021-04-18T14:30)",
  "  date(2021-04)                First day of the month",
  "  date(today), date(now), date(tomorrow), date(yesterday)",
  "  date(sow), date(eow)         Start and end of this week",
  "  date(som), date(eom), date(soy), date(eoy)",
  "",
  "DURATION LITERALS",
  "  dur(1 day)",
  "  dur(3 hours, 20 minutes)",
  "  dur(2w)",
  "    Units: years, months, weeks, days, hours, minutes, seconds,",
  "    milliseconds, with the usual abbreviations (yr, mo, w, d, h, m, s, ms).",
  "",
  "ARITHMETIC",
  "  date(today) - dur(1 week)    A week ago",
  "  date(eom) - date(today)      Duration until the end of the month",
  "  dur(1 day) * 3",
  "",
  "COMPONENTS",
  "  date.year, .month, .day, .hour, .minute, .second, .millisecond",
  "  date.week, .weekday",
  "  duration.days, .hours, ...   Whole components",
  "",
  "FUNCTIONS",
  "  striptime(date)              Midnight of the same day",
  "  dateformat(date, format)     strftime formatting",
  "  localtime(date)              Convert to the local time zone",
  "  date(text, format)           Parse with a strftime format"]

def queriesPage : List String := [
  "QUERIES - Shapes and Pipelines",
  "",
  "SHAPES",
  "  TABLE [WITHOUT ID] expr [AS name], ...",
  "    One row per result, one column per expression. The first column holds",
  "    the document link (or the group key after GROUP BY).",
  "",
  "  LIST [WITHOUT ID] [expr]",
  "    One item per result: the document link, the expression, or both.",
  "",
  "  TASK",
  "    Every task item of the matching documents. Task fields (text,",
  "    completed, line, ...) are in scope, along with file.",
  "",
  "  CALENDAR expr",
  "    One entry per result whose expression is a date.",
  "",
  "CLAUSES",
  "  Clauses after the header run in the order they are written.",
  "",
  "  FROM source          Pick documents (see 'quarry doc sources')",
  "  WHERE expr           Keep rows where expr is truthy",
  "  SORT expr [ASC|DESC], ...",
  "                       Stable sort; ASCENDING and DESCENDING also work",
  "  LIMIT n              Keep the first n rows",
  "  GROUP BY expr [AS name]",
  "                       One row per distinct key, with key and rows fields",
  "  FLATTEN expr [AS name]",
  "                       One row per element of a list field",
  "  HAVING expr          Like WHERE, usually after GROUP BY",
  "",
  "    Constraints:",
  "      - Several FROM clauses are combined with OR",
  "      - Adjacent WHERE clauses are combined with AND",
  "      - Adjacent SORT clauses concatenate",
  "      - FLATTEN on the current group name undoes the GROUP BY",
  "",
  "ERRORS",
  "  A row whose expression fails is dropped from that clause. The query only",
  "  fails when every row fails.",
  "",
  "EXAMPLE",
  "  TABLE file.name, due",
  "  FROM #project",
  "  WHERE !completed",
  "  SORT due ASC",
  "  LIMIT 5"]

def sourcesPage : List String := [
  "SOURCES - Choosing Documents",
  "",
  "  #tag                 Documents with the tag or a nested tag (#tag/sub)",
  "  \"folder\"             Documents inside the folder",
  "  [[Page]]             Documents linking to Page",
  "  outgoing([[Page]])   Documents Page links to",
  "  a and b, a or b      Intersection and union",
  "  -source, !source     Every document not in source",
  "  (source)             Grouping",
  "",
  "    Example:",
  "      FROM #project and -\"archive\"",
  "      FROM [[Home]] or outgoing([[Home]])",
  "",
  "    Constraints:",
  "      - Linking to a document that does not exist is an error",
  "      - Without FROM, every document is a candidate"]

def typesPage : List String := [
  "TYPES - Values",
  "",
  "TYPES",
  "  null, boolean, number, string, date, duration, link, array, object",
  "",
  "  typeof(value) names the type.",
  "",
  "TRUTHINESS",
  "  false, null, 0, \"\", zero durations, and empty lists and objects are",
  "  falsy. Everything else is truthy, including every link.",
  "",
  "ORDERING",
  "  Values of different types order by type:",
  "    null < boolean < number < string < date < duration < link < array < object",
  "  Lists compare element by element, then by length. Objects compare key",
  "  by key in sorted key order, then by size.",
  "",
  "RENDERING",
  "  Numbers drop trailing zeros. Dates use the configured date format",
  "  (\"%B %d, %Y\" by default), or the date-time format when they have a time.",
  "  Null renders as \"-\" unless configured otherwise.",
  "",
  "SETTINGS",
  "  --settings file.json accepts:",
  "    render_null_as, date_format, date_time_format,",
  "    table_id_column_name, display_result_count"]

end DocQuery.Manual
