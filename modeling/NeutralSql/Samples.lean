import NeutralSql.Statement

/-!
# Sample statements

A small shop with users, orders and products, for trials of everything else.
-/

namespace NeutralSql.Samples

/-- A user by key. -/
def userById (id : Int64) : Select :=
  { (Select.allOf "users").addFilter (.compare "id" .equal (.integer id)) with limit := some 1 }

/-- A page of the active users, the newest first. -/
def activeUsersPage (limit offset : UInt64) : Select :=
  let query :=
    (((Select.allOf "users").addFilter (.compare "active" .equal (.boolean true))).addFilter
      (.isNull "deleted_at")).addOrder "created_at" .descending
  { query with columns := ["id", "email", "name"], limit := some limit, offset := some offset }

/-- Paid orders with the names of their customers. -/
def ordersWithCustomers (kind : JoinKind) : Select :=
  let query :=
    ((Select.allOf "orders").addJoin
      (.on kind "customers" "orders.customer_id" "customers.id")).addFilter
      (.compare "orders.status" .equal (.string "paid"))
  { query with columns := ["orders.id", "customers.name"] }

/-- All products. -/
def allProducts : Select :=
  .allOf "products"

/-- Two new users. -/
def insertUsers : Insert :=
  ⟨"users",
    [.ofList [("email", .string "ada@example.com"), ("name", .string "Ada")],
     .ofList [("email", .string "alan@example.com"), ("name", .string "Alan")]]⟩

/-- An order is shipped. -/
def shipOrder (id : Int64) : Update :=
  ⟨"orders", .ofList [("status", .string "shipped")],
    [.compare "id" .equal (.integer id)]⟩

/-- The table of users. -/
def usersTable : CreateTable where
  name := "users"
  columns :=
    [(ColumnDefinition.plain "id" "integer").numbered,
     (ColumnDefinition.plain "email" "string").notNull,
     .plain "name" "string(100)",
     (ColumnDefinition.plain "active" "boolean").withDefault (.boolean true),
     .plain "created_at" "timestamp"]
  constraints := (Constraints.none.withPrimaryKey ["id"]).addUnique ["email"]
  ifNotExists := false

/-- The table of orders. -/
def ordersTable : CreateTable where
  name := "orders"
  columns :=
    [(ColumnDefinition.plain "id" "bigint").numbered,
     (ColumnDefinition.plain "customer_id" "integer").notNull,
     (ColumnDefinition.plain "total" "decimal(12, 2)").withDefault (.integer 0),
     (ColumnDefinition.plain "status" "string(20)").withDefault (.string "new")]
  constraints :=
    ((Constraints.none.withPrimaryKey ["id"]).addForeignKey
      ⟨"customer_id", "customers", "id"⟩).addIndex ⟨["status"], none⟩
  ifNotExists := false

end NeutralSql.Samples
