/-
What the shell shows on its own account.
-/
namespace RelStore.Shell

def joinLines (lines : List String) : String := String.intercalate "\n" lines

def banner : String :=
  joinLines [
    "",
    "╔═══════════════════════════════════════════════════════════════╗",
    "║                                                               ║",
    "║   ██╗  ██╗███████╗███████╗██╗         ██████╗ ██████╗         ║",
    "║   ██║ ██╔╝██╔════╝██╔════╝██║         ██╔══██╗██╔══██╗        ║",
    "║   █████╔╝ █████╗  █████╗  ██║         ██║  ██║██████╔╝        ║",
    "║   ██╔═██╗ ██╔══╝  ██╔══╝  ██║         ██║  ██║██╔══██╗        ║",
    "║   ██║  ██╗███████╗███████╗███████╗    ██████╔╝██████╔╝        ║",
    "║   ╚═╝  ╚═╝╚══════╝╚══════╝╚══════╝    ╚═════╝ ╚═════╝         ║",
    "║                                                               ║",
    "║   A small relational database engine                          ║",
    "║   Type .help for commands, or enter SQL to execute            ║",
    "║                                                               ║",
    "╚═══════════════════════════════════════════════════════════════╝",
    ""]

def helpText : String :=
  joinLines [
    "",
    "KeelDB REPL Commands:",
    "  .help          Show this help message",
    "  .databases     List all databases",
    "  .tables        List tables in the current database",
    "  .describe <t>  Describe table structure",
    "  .use <db>      Switch database",
    "  .clear         Clear the screen",
    "  .quit          Exit the REPL",
    "",
    "SQL Commands (end with semicolon):",
    "  CREATE DATABASE name;  DROP DATABASE name;  USE name;",
    "  SHOW DATABASES;  SHOW TABLES;  DESCRIBE name;",
    "  CREATE TABLE name (col TYPE [PRIMARY KEY] [UNIQUE] [REFERENCES t(c)], ...);",
    "  DROP TABLE name;",
    "  INSERT INTO name [(col1, ...)] VALUES (val1, ...);",
    "  SELECT [DISTINCT] cols FROM t [INNER JOIN t2 ON ...] [WHERE ...]",
    "         [GROUP BY ...] [HAVING ...] [ORDER BY ...] [LIMIT n] [OFFSET n];",
    "  UPDATE name SET col = val [, ...] [WHERE ...];",
    "  DELETE FROM name [WHERE ...];",
    "",
    "Data Types: INT, FLOAT, STRING (TEXT), BOOL (BOOLEAN)",
    "Aggregates: COUNT(*), COUNT(col), SUM, AVG, MIN, MAX",
    "",
    "Examples:",
    "  CREATE DATABASE shop;",
    "  USE shop;",
    "  CREATE TABLE users (id INT PRIMARY KEY, name STRING, active BOOL);",
    "  INSERT INTO users VALUES (1, 'Alice', TRUE);",
    "  SELECT name FROM users WHERE active = TRUE ORDER BY name;",
    ""]

end RelStore.Shell
