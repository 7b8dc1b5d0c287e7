import TestMigration.Text.Search
import TestMigration.Text.Blank
import TestMigration.Text.Letter
/-!
# The vocabulary of browser tests

The names that the test libraries give to their types, methods and annotations, and what each of
them means for the converted test. A class of the project is recognised by exclusion: a type with a
capital that is no library type.
-/

namespace TestMigration.Extraction

open Text

/-! ### Locators -/

def locatorStrategy? (method : String) : Option String :=
  if ["id", "name", "className", "cssSelector", "xpath", "tagName", "linkText",
      "partialLinkText"].contains method then some method else none

def annotationStrategy? : String → Option String
  | "css" => some "cssSelector"
  | "cssSelector" => none
  | key => locatorStrategy? key

def constantStrategy? (name : String) : Option String :=
  [("ID", "id"), ("NAME", "name"), ("CLASS_NAME", "className"), ("CSS", "cssSelector"),
    ("XPATH", "xpath"), ("TAG_NAME", "tagName"), ("LINK_TEXT", "linkText"),
    ("PARTIAL_LINK_TEXT", "partialLinkText"), ("ID_OR_NAME", "id")].lookup name

def isLocatorAnnotation (name : String) : Bool := name == "FindBy"

/-! ### Elements and pages -/

def isInteraction (method : String) : Bool :=
  ["click", "clear", "sendKeys", "submit"].contains method

def isSelection (method : String) : Bool :=
  ["selectByVisibleText", "selectByValue", "selectByIndex"].contains method

/-- What a step of a pointer chain does. -/
def pointerOp? (method : String) : Option String :=
  [("moveToElement", "hover"), ("click", "click"), ("doubleClick", "doubleClick")].lookup method

/-- The steps of a pointer chain that do nothing by themselves. -/
def isPointerFiller (method : String) : Bool := ["build", "perform", "pause"].contains method

def elementQuery? (method : String) : Option String :=
  [("getText", "text"), ("isDisplayed", "visible"), ("isEnabled", "enabled"),
    ("isSelected", "selected"), ("getAttribute", "attribute"),
    ("getDomAttribute", "attribute")].lookup method

def pageQuery? (method : String) : Option String :=
  [("getCurrentUrl", "url"), ("getTitle", "title"), ("getPageSource", "source")].lookup method

def keyName? (constant : String) : Option String :=
  [("ENTER", "Enter"), ("RETURN", "Enter"), ("TAB", "Tab"), ("ESCAPE", "Escape"),
    ("BACK_SPACE", "Backspace"), ("DELETE", "Delete"), ("SPACE", "Space"), ("ARROW_UP", "ArrowUp"),
    ("ARROW_DOWN", "ArrowDown"), ("ARROW_LEFT", "ArrowLeft"), ("ARROW_RIGHT", "ArrowRight"),
    ("UP", "ArrowUp"), ("DOWN", "ArrowDown"), ("LEFT", "ArrowLeft"), ("RIGHT", "ArrowRight"),
    ("HOME", "Home"), ("END", "End"), ("PAGE_UP", "PageUp"),
    ("PAGE_DOWN", "PageDown")].lookup constant

/-- The conversions of boxed numbers, meaningless in the targets. -/
def isUnboxing (method : String) : Bool :=
  ["intValue", "longValue", "doubleValue", "floatValue", "booleanValue"].contains method

def isLookup (method : String) : Bool := method == "findElement" || method == "findElements"

def isScriptMethod (method : String) : Bool :=
  method == "executeScript" || method == "executeAsyncScript"

/-! ### Waits and assertions -/

inductive ConditionShape where
  | locator
  | element
  | either
  | page
  deriving DecidableEq, Repr

def waitCondition? (method : String) : Option (String × ConditionShape) :=
  [("visibilityOfElementLocated", "visibilityOf", ConditionShape.locator),
    ("visibilityOf", "visibilityOf", .element),
    ("presenceOfElementLocated", "presenceOf", .locator),
    ("invisibilityOfElementLocated", "invisibilityOf", .locator),
    ("invisibilityOf", "invisibilityOf", .element),
    ("elementToBeClickable", "elementToBeClickable", .either),
    ("urlContains", "urlContains", .page),
    ("urlToBe", "urlToBe", .page),
    ("titleIs", "titleIs", .page)].lookup method

def isWaitType (name : String) : Bool := ["WebDriverWait", "FluentWait", "Wait"].contains name

def durationFactor? (method : String) : Option Float :=
  [("ofMillis", 0.001), ("ofSeconds", 1.0), ("ofMinutes", 60.0)].lookup method

/-- The timeout of a wait that nothing is known about. -/
def defaultSeconds : Float := 10.0

def assertKind? (method : String) : Option String :=
  [("assertEquals", "equals"), ("assertSame", "equals"), ("assertNotEquals", "notEquals"),
    ("assertNotSame", "notEquals"), ("assertTrue", "true"), ("assertFalse", "false"),
    ("assertNull", "null"), ("assertNotNull", "notNull")].lookup method

def isAssertClass (name : String) : Bool := ["Assert", "Assertions", "AssertJUnit"].contains name

/-- The number of arguments of an assertion, its message aside. -/
def assertArity (kind : String) : Nat := if kind == "equals" || kind == "notEquals" then 2 else 1

/-! ### Frameworks and the life of a test -/

def frameworkOf (imports : List String) : String :=
  let paths := imports.map (replaceFirst "static " "")
  let found := [("org.junit.jupiter", "junit5"), ("org.testng", "testng"), ("org.junit", "junit4"),
    ("junit.framework", "junit4")].find? fun (start, _) => paths.any (startsWith start)
  (found.map Prod.snd).getD ""

inductive MethodMark where
  | test
  | setup
  | teardown
  | setupAll
  | teardownAll
  | disabled
  | displayName
  deriving DecidableEq, Repr

def methodMark? (name : String) : Option MethodMark :=
  [("Test", MethodMark.test),
    ("Before", .setup), ("BeforeEach", .setup), ("BeforeMethod", .setup),
    ("After", .teardown), ("AfterEach", .teardown), ("AfterMethod", .teardown),
    ("BeforeClass", .setupAll), ("BeforeAll", .setupAll), ("BeforeTest", .setupAll),
    ("BeforeSuite", .setupAll),
    ("AfterClass", .teardownAll), ("AfterAll", .teardownAll), ("AfterTest", .teardownAll),
    ("AfterSuite", .teardownAll),
    ("Ignore", .disabled), ("Disabled", .disabled),
    ("DisplayName", .displayName)].lookup name

/-! ### Types -/

def browserOf? (driverClass : String) : Option String :=
  [("ChromeDriver", "chromium"), ("EdgeDriver", "chromium"), ("ChromiumDriver", "chromium"),
    ("FirefoxDriver", "firefox"), ("SafariDriver", "webkit"), ("RemoteWebDriver", "chromium"),
    ("InternetExplorerDriver", "chromium")].lookup driverClass

def isDriverType (name : String) : Bool := name == "WebDriver" || (browserOf? name).isSome

def isElementType (name : String) : Bool := name == "WebElement"

def isScriptType (name : String) : Bool := name == "JavascriptExecutor"

def isPrimitiveType (name : String) : Bool :=
  ["int", "long", "short", "byte", "float", "double", "boolean", "char", "void",
    "var"].contains name

def isLibraryType (name : String) : Bool :=
  isDriverType name || isElementType name || isScriptType name || isWaitType name
    || isAssertClass name
    || ["By", "How", "Actions", "Select", "Keys", "ExpectedConditions", "ExpectedCondition",
      "PageFactory", "Alert", "Cookie", "Dimension", "TakesScreenshot", "OutputType", "Duration",
      "TimeUnit", "Thread", "System", "Math", "String", "StringBuilder", "Integer", "Long", "Short",
      "Double", "Float", "Boolean", "Character", "Object", "List", "ArrayList", "LinkedList", "Map",
      "HashMap", "Set", "HashSet", "Arrays", "Collections", "Optional", "Objects", "Random", "UUID",
      "LocalDate", "LocalDateTime", "Exception", "RuntimeException"].contains name

/-- A type by its simple name, without arguments and dimensions. -/
def baseType (typeName : String) : String :=
  afterLast '.' (trim (replace "[]" "" (beforeFirst '<' typeName)))

/-- The simple name of the argument of a type; empty if none. -/
def typeArgument (typeName : String) : String :=
  if !occursIn "<" typeName then ""
  else
    let inside := afterFirst '<' typeName
    baseType (if occursIn ">" inside then beforeLast '>' inside else inside)

def isProjectType (typeName : String) : Bool :=
  let name := baseType typeName
  (name.toList.head?.any isUpper) && !isLibraryType name && !isPrimitiveType name

def isElementList (typeName : String) : Bool :=
  baseType typeName == "List" && isElementType (typeArgument typeName)

def libraryPackages : List String :=
  ["java.", "javax.", "junit.", "org.junit.", "org.testng.", "org.hamcrest.",
    "org.openqa.selenium.", "io.github.bonigarcia."]

def staticMember? (imported : String) : Option (String × String) :=
  if !startsWith "static " imported then none
  else
    let path := String.ofList (imported.toList.drop 7)
    if libraryPackages.any fun p => startsWith p path then none
    else
      let owner := beforeLast '.' path
      if isProjectType (afterLast '.' owner) then some (owner, afterLast '.' path) else none

/-- The class a method was imported from by name, or else the first that is imported as a whole;
empty if none. -/
def staticImportOwner (imports : List String) (method : String) : String :=
  let members := imports.filterMap staticMember?
  match members.find? (·.2 == method) with
  | some (owner, _) => owner
  | none =>
    match members.find? (·.2 == "*") with
    | some (owner, _) => owner
    | none => ""

def isOperator (op : String) : Bool :=
  ["==", "!=", "<", ">", "<=", ">=", "&&", "||", "+", "-", "*", "/", "%"].contains op

end TestMigration.Extraction
