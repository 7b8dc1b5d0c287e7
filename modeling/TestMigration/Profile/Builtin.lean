import TestMigration.Profile.Basic
/-!
# The profiles that come with the program

Two targets are known by name: Playwright Test in TypeScript, and Playwright for Python under
pytest.
-/

namespace TestMigration.Profile

def playwrightTs.phrases : Phrases where
  indent := "  "
  quote := "'"
  trueWord := "true"
  falseWord := "false"
  nullWord := "null"
  selfRef := "this"
  operators :=
    [("==", "==="),
     ("!=", "!==")]
  not := "!$operand"
  contains := "$haystack.includes($needle)"
  declare := "const $name = $value;"
  declareMutable := "let $name = $value;"
  assign := "$name = $value;"
  expressionStatement := "$expression;"
  await := "await $expression"
  ifOpen := "if ($condition) \x7b"
  elseOpen := "\x7d else \x7b"
  tryOpen := "try \x7b"
  catchOpen := "\x7d catch \x7b"
  blockClose := "\x7d"
  emptyBlock := ""
  inlineOpen := "\x7b"
  inlineClose := "\x7d"
  returnValue := "return $value;"
  returnVoid := "return;"
  comment := "// $text"
  construct := "new $type($args)"
  list := "[$items]"
  messagePart := ", $message"
  groupAssertOperands := false
  keywords :=
    ["arguments", "await", "delete", "eval", "export", "function", "in", "let", "of", "typeof",
     "var", "with", "yield"]

/-- How Playwright finds elements. The two languages differ in how they find links. -/
def playwrightLocators (linkText partialLinkText : String) : LocatorShapes where
  locate := "$scope.locator($selector)"
  nth := "$source.nth($index)"
  strategies :=
    [("id", { shape := .selector "#$value", escape := some .identifier }),
     ("name", { shape := .selector "[name=\"$value\"]", escape := some .string }),
     ("className", { shape := .selector ".$value", escape := some .identifier }),
     ("cssSelector", { shape := .selector "$value" }),
     ("xpath", { shape := .selector "xpath=$value" }),
     ("tagName", { shape := .selector "$value" }),
     ("linkText", { shape := .expression linkText }),
     ("partialLinkText", { shape := .expression partialLinkText })]

def playwrightTs.locators : LocatorShapes :=
  playwrightLocators "$scope.getByRole('link', \x7b name: $value, exact: true \x7d)"
    "$scope.getByRole('link', \x7b name: $value \x7d)"

def playwrightTs.script : ScriptBridge where
  semantics :=
    "the script runs in the page as an arrow function over one array argument 'args'; element arguments are passed as element handles"
  function := "($params) => \x7b $code \x7d"
  params := "args"
  statement := "await $page.evaluate($function$args_part);"
  expression := "await $page.evaluate($function$args_part)"
  elementArg := "await $element.elementHandle()"

def playwrightTs.files : FileShapes where
  headerImports :=
    [("test",
      [{ template := "import \x7b $names \x7d from '@playwright/test';"
         names := ["test", "expect", "Page", "Locator"] }]),
     ("page",
      [{ template := "import \x7b $names \x7d from '@playwright/test';"
         names := ["expect", "Page", "Locator"] }]),
     ("module",
      [{ template := "import \x7b $names \x7d from '@playwright/test';"
         names := ["expect", "Page", "Locator"] }])]
  constant := "export const $name = $value;"
  topLevelGap := 1
  suiteOpen := "test.describe($title, () => \x7b"
  suiteClose := "\x7d);"
  hookBefore := "test.beforeEach(async (\x7b page \x7d) => \x7b"
  hookAfter := "test.afterEach(async (\x7b page \x7d) => \x7b"
  hookClose := "\x7d);"
  testOpen := "test($title, async (\x7b page \x7d) => \x7b"
  testDisabledOpen := "test.skip($title, async (\x7b page \x7d) => \x7b"
  testClose := "\x7d);"
  functionOpen := "export async function $name($params)$returns \x7b"
  functionClose := "\x7d"
  classOpen := "export class $name$extends \x7b"
  classClose := "\x7d"
  extendsClause := " extends $base"
  superInit := "super($page);"
  fieldDecl := "readonly $name: $type;"
  constructorOpen := "constructor($params) \x7b"
  constructorClose := "\x7d"
  memberInit := "$self.$name = $value;"
  methodOpen := "async $name($params)$returns \x7b"
  staticMethodOpen := "static async $name($params)$returns \x7b"
  methodClose := "\x7d"
  param := "$name: $type"
  untypedParam := "$name"
  returnType := ": Promise<$type>"
  voidType := "void"
  pageParam := "page: Page"
  importClass := "import \x7b $name \x7d from '$path';"
  importModule := "import * as $alias from '$path';"
  importFunctions := "import \x7b $names \x7d from '$path';"

def playwrightTs : Profile where
  name := "playwright-ts"
  displayName := "Playwright Test (TypeScript)"
  version := "1.0.0"
  language := "typescript"
  fileExtension := ".ts"
  delegateStrategy := .call
  phrases := playwrightTs.phrases
  styles := { identifiers := .camel, modules := .pascal, testStart := "" }
  types :=
    [("default", "any"),
     ("WebDriver", "Page"),
     ("WebElement", "Locator"),
     ("List<WebElement>", "Locator"),
     ("String", "string"),
     ("char", "string"),
     ("int", "number"),
     ("long", "number"),
     ("short", "number"),
     ("double", "number"),
     ("float", "number"),
     ("Integer", "number"),
     ("Long", "number"),
     ("Double", "number"),
     ("boolean", "boolean"),
     ("Boolean", "boolean"),
     ("void", "void"),
     ("Object", "any")]
  locators := playwrightTs.locators
  interactions :=
    [("clear", "await $element.clear();"),
     ("sendKeys", "await $element.pressSequentially($arg0);"),
     ("fill", "await $element.fill($arg0);"),
     ("click", "await $element.click();"),
     ("hover", "await $element.hover();"),
     ("doubleClick", "await $element.dblclick();"),
     ("submit", "await $element.press('Enter');"),
     ("press", "await $element.press($arg0);"),
     ("selectByVisibleText", "await $element.selectOption(\x7b label: $arg0 \x7d);"),
     ("selectByValue", "await $element.selectOption($arg0);"),
     ("selectByIndex", "await $element.selectOption(\x7b index: $arg0 \x7d);")]
  queries :=
    [("text", "await $element.innerText()"),
     ("visible", "await $element.isVisible()"),
     ("enabled", "await $element.isEnabled()"),
     ("selected", "await $element.isChecked()"),
     ("attribute", "await $element.getAttribute($arg0)"),
     ("count", "await $element.count()"),
     ("value", "await $element.inputValue()")]
  pageQueries :=
    [("url", "$page.url()"),
     ("title", "await $page.title()"),
     ("source", "await $page.content()")]
  waits :=
    [("visibilityOf", "await $element.waitFor(\x7b state: 'visible', timeout: $timeout_ms \x7d);"),
     ("presenceOf", "await $element.waitFor(\x7b state: 'attached', timeout: $timeout_ms \x7d);"),
     ("invisibilityOf", "await $element.waitFor(\x7b state: 'hidden', timeout: $timeout_ms \x7d);"),
     ("elementToBeClickable",
       "await expect($element).toBeEnabled(\x7b timeout: $timeout_ms \x7d);"),
     ("urlContains",
       "await $page.waitForURL((url) => url.toString().includes($arg0), \x7b timeout: $timeout_ms \x7d);"),
     ("urlToBe", "await $page.waitForURL($arg0, \x7b timeout: $timeout_ms \x7d);"),
     ("titleIs", "await expect($page).toHaveTitle($arg0, \x7b timeout: $timeout_ms \x7d);"),
     ("scriptReturns",
       "await $page.waitForFunction(() => $predicate, undefined, \x7b timeout: $timeout_ms \x7d);")]
  asserts :=
    [("equals", "expect($actual$message_part).toBe($expected);"),
     ("notEquals", "expect($actual$message_part).not.toBe($expected);"),
     ("true", "expect($actual$message_part).toBe(true);"),
     ("false", "expect($actual$message_part).toBe(false);"),
     ("null", "expect($actual$message_part).toBeNull();"),
     ("notNull", "expect($actual$message_part).not.toBeNull();"),
     ("contains", "expect($actual$message_part).toContain($expected);")]
  commands :=
    [("navigate", "await $page.goto($url);"),
     ("pause", "await $page.waitForTimeout($millis);"),
     ("back", "await $page.goBack();"),
     ("forward", "await $page.goForward();"),
     ("refresh", "await $page.reload();"),
     ("close", "await $page.close();"),
     ("deleteAllCookies", "await $page.context().clearCookies();"),
     ("implicitWait", "$page.setDefaultTimeout($millis);"),
     ("maximize", ""),
     ("quit", "")]
  script := playwrightTs.script
  pageRef := "page"
  memberPageRef := "$self.page"
  files := playwrightTs.files
  paths :=
    [("TestClass", "$name.spec.ts"),
     ("Suite", "$name.spec.ts"),
     ("PageObject", "$name.ts"),
     ("UtilityModule", "$name.ts")]
  supportFiles :=
    [("playwright.config.ts",
      "import \x7b defineConfig \x7d from '@playwright/test';\n"
      ++ "\n"
      ++ "export default defineConfig(\x7b\n"
      ++ "  testDir: '.',\n"
      ++ "  testMatch: '**/*.spec.ts',\n"
      ++ "  use: \x7b\n"
      ++ "    browserName: '$browser',\n"
      ++ "  \x7d,\n"
      ++ "\x7d);\n"),
     ("package.json",
      "\x7b\n"
      ++ "  \"name\": \"converted-playwright-tests\",\n"
      ++ "  \"private\": true,\n"
      ++ "  \"scripts\": \x7b\n"
      ++ "    \"test\": \"playwright test\"\n"
      ++ "  \x7d,\n"
      ++ "  \"devDependencies\": \x7b\n"
      ++ "    \"@playwright/test\": \"^1.40.0\",\n"
      ++ "    \"typescript\": \"^5.3.0\"\n"
      ++ "  \x7d\n"
      ++ "\x7d\n"),
     ("tsconfig.json",
      "\x7b\n"
      ++ "  \"compilerOptions\": \x7b\n"
      ++ "    \"target\": \"ES2020\",\n"
      ++ "    \"module\": \"commonjs\",\n"
      ++ "    \"strict\": false,\n"
      ++ "    \"esModuleInterop\": true\n"
      ++ "  \x7d\n"
      ++ "\x7d\n"),
     ("README.md",
      "# Converted Playwright tests\n"
      ++ "\n"
      ++ "Generated by testloom with the `$profile` profile.\n"
      ++ "\n"
      ++ "```\n"
      ++ "npm install\n"
      ++ "npx playwright install $browser\n"
      ++ "npx playwright test\n"
      ++ "```\n")]

def playwrightPython.phrases : Phrases where
  indent := "    "
  quote := "\""
  trueWord := "True"
  falseWord := "False"
  nullWord := "None"
  selfRef := "self"
  operators :=
    [("&&", "and"),
     ("||", "or")]
  not := "not $operand"
  contains := "$needle in $haystack"
  declare := "$name = $value"
  declareMutable := "$name = $value"
  assign := "$name = $value"
  expressionStatement := "$expression"
  await := "$expression"
  ifOpen := "if $condition:"
  elseOpen := "else:"
  tryOpen := "try:"
  catchOpen := "except Exception:"
  blockClose := ""
  emptyBlock := "pass"
  inlineOpen := ""
  inlineClose := ""
  returnValue := "return $value"
  returnVoid := "return"
  comment := "# $text"
  construct := "$type($args)"
  list := "[$items]"
  messagePart := ", $message"
  groupAssertOperands := true
  keywords :=
    ["and", "as", "assert", "async", "await", "class", "def", "del", "elif", "except", "finally",
     "from", "global", "import", "in", "is", "lambda", "nonlocal", "not", "or", "pass", "raise",
     "try", "while", "with", "yield"]

def playwrightPython.locators : LocatorShapes :=
  playwrightLocators "$scope.get_by_role(\"link\", name=$value, exact=True)"
    "$scope.get_by_role(\"link\", name=$value)"

def playwrightPython.script : ScriptBridge where
  semantics :=
    "the script runs in the page as an arrow function over one list argument 'args'; element arguments are passed as element handles"
  function := "($params) => \x7b $code \x7d"
  params := "args"
  statement := "$page.evaluate($function_str$args_part)"
  expression := "$page.evaluate($function_str$args_part)"
  elementArg := "$element.element_handle()"

def playwrightPython.files : FileShapes where
  headerImports :=
    [("test",
      [{ template := "import pytest"
         names := ["pytest"] },
       { template := "from playwright.sync_api import $names"
         names := ["Locator", "Page", "expect"] }]),
     ("page",
      [{ template := "from playwright.sync_api import $names"
         names := ["Locator", "Page", "expect"] }]),
     ("module",
      [{ template := "from playwright.sync_api import $names"
         names := ["Locator", "Page", "expect"] }])]
  constant := "$name = $value"
  topLevelGap := 2
  hooksOpen := "@pytest.fixture(autouse=True)\ndef setup_and_teardown(page: Page):"
  hooksYield := "yield"
  testOpen := "def $name(page: Page):"
  testDisabledOpen := "@pytest.mark.skip(reason=\"disabled in source\")\ndef $name(page: Page):"
  testDoc := "\"\"\"$title\"\"\""
  functionOpen := "def $name($params)$returns:"
  classOpen := "class $name$extends:"
  extendsClause := "($base)"
  superInit := "super().__init__($page)"
  selfParam := "self"
  constructorOpen := "def __init__($params):"
  memberInit := "$self.$name = $value"
  methodOpen := "def $name($params)$returns:"
  staticMethodOpen := "@staticmethod\ndef $name($params)$returns:"
  param := "$name: $type"
  untypedParam := "$name"
  returnType := " -> $type"
  voidType := "None"
  pageParam := "page: Page"
  importClass := "from $module import $name"
  importModule := "import $module as $alias"
  importFunctions := "from $module import $names"

def playwrightPython : Profile where
  name := "playwright-python"
  displayName := "Playwright for Python (pytest)"
  version := "1.0.0"
  language := "python"
  fileExtension := ".py"
  delegateStrategy := .call
  phrases := playwrightPython.phrases
  styles := { identifiers := .snake, modules := .snake, testStart := "test_" }
  types :=
    [("default", ""),
     ("WebDriver", "Page"),
     ("WebElement", "Locator"),
     ("List<WebElement>", "Locator"),
     ("String", "str"),
     ("char", "str"),
     ("int", "int"),
     ("long", "int"),
     ("short", "int"),
     ("Integer", "int"),
     ("Long", "int"),
     ("double", "float"),
     ("float", "float"),
     ("Double", "float"),
     ("boolean", "bool"),
     ("Boolean", "bool"),
     ("void", "None")]
  locators := playwrightPython.locators
  interactions :=
    [("clear", "$element.clear()"),
     ("sendKeys", "$element.press_sequentially($arg0)"),
     ("fill", "$element.fill($arg0)"),
     ("click", "$element.click()"),
     ("hover", "$element.hover()"),
     ("doubleClick", "$element.dblclick()"),
     ("submit", "$element.press(\"Enter\")"),
     ("press", "$element.press($arg0)"),
     ("selectByVisibleText", "$element.select_option(label=$arg0)"),
     ("selectByValue", "$element.select_option($arg0)"),
     ("selectByIndex", "$element.select_option(index=$arg0)")]
  queries :=
    [("text", "$element.inner_text()"),
     ("visible", "$element.is_visible()"),
     ("enabled", "$element.is_enabled()"),
     ("selected", "$element.is_checked()"),
     ("attribute", "$element.get_attribute($arg0)"),
     ("count", "$element.count()"),
     ("value", "$element.input_value()")]
  pageQueries :=
    [("url", "$page.url"),
     ("title", "$page.title()"),
     ("source", "$page.content()")]
  waits :=
    [("visibilityOf", "$element.wait_for(state=\"visible\", timeout=$timeout_ms)"),
     ("presenceOf", "$element.wait_for(state=\"attached\", timeout=$timeout_ms)"),
     ("invisibilityOf", "$element.wait_for(state=\"hidden\", timeout=$timeout_ms)"),
     ("elementToBeClickable", "expect($element).to_be_enabled(timeout=$timeout_ms)"),
     ("urlContains", "$page.wait_for_url(lambda url: $arg0 in url, timeout=$timeout_ms)"),
     ("urlToBe", "$page.wait_for_url($arg0, timeout=$timeout_ms)"),
     ("titleIs", "expect($page).to_have_title($arg0, timeout=$timeout_ms)"),
     ("scriptReturns", "$page.wait_for_function($predicate_str, timeout=$timeout_ms)")]
  asserts :=
    [("equals", "assert $actual == $expected$message_part"),
     ("notEquals", "assert $actual != $expected$message_part"),
     ("true", "assert $actual$message_part"),
     ("false", "assert not $actual$message_part"),
     ("null", "assert $actual is None$message_part"),
     ("notNull", "assert $actual is not None$message_part"),
     ("contains", "assert $expected in $actual$message_part")]
  commands :=
    [("navigate", "$page.goto($url)"),
     ("pause", "$page.wait_for_timeout($millis)"),
     ("back", "$page.go_back()"),
     ("forward", "$page.go_forward()"),
     ("refresh", "$page.reload()"),
     ("close", "$page.close()"),
     ("deleteAllCookies", "$page.context.clear_cookies()"),
     ("implicitWait", "$page.set_default_timeout($millis)"),
     ("maximize", ""),
     ("quit", "")]
  script := playwrightPython.script
  pageRef := "page"
  memberPageRef := "$self.page"
  files := playwrightPython.files
  paths :=
    [("TestClass", "$module.py"),
     ("Suite", "$module.py"),
     ("PageObject", "$module.py"),
     ("UtilityModule", "$module.py")]
  packageMarker := some "__init__.py"
  supportFiles :=
    [("pytest.ini",
      "[pytest]\n"
      ++ "addopts = --browser $browser\n"
      ++ "pythonpath = .\n"
      ++ "python_files = test_*.py *_test.py *_tests.py\n"),
     ("requirements.txt",
      "pytest\npytest-playwright\n"),
     ("README.md",
      "# Converted Playwright tests\n"
      ++ "\n"
      ++ "Generated by testloom with the `$profile` profile.\n"
      ++ "\n"
      ++ "```\n"
      ++ "pip install -r requirements.txt\n"
      ++ "playwright install $browser\n"
      ++ "pytest\n"
      ++ "```\n")]

/-- The profiles that come with the program, by name. -/
def builtins : List Profile := [playwrightPython, playwrightTs]

def named? (name : String) : Option Profile := builtins.find? fun p => p.name == name

end TestMigration.Profile
