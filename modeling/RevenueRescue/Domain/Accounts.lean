import RevenueRescue.Domain.Repositories

/-!
# Customers, consents and transactions

The application services that record the facts the case services work on. None of them
touches a recovery case.
-/

namespace RevenueRescue

open Python

namespace CustomerService

/-- `CustomerService.create_customer`. -/
def createCustomer (row : Customer) : Service UUID := do
  let s ← get
  if (s.customerByExternalId row.provider row.externalCustomerId).isSome then
    throw (.duplicateEntity "Customer" (row.provider ++ ":" ++ row.externalCustomerId))
  insertCustomer row

/-- `CustomerUpdateDTO`. -/
structure CustomerUpdateDTO where
  email : Option String
  status : Option CustomerStatus
  metadata : Option Dict

/-- The row after an update; a field that is not given keeps its value. -/
def applyUpdate (dto : CustomerUpdateDTO) (row : Customer) : Customer :=
  { row with
    email := dto.email <|> row.email
    status := dto.status.getD row.status
    metadataJson := Dict.update row.metadataJson (dto.metadata.getD []) }

/-- `CustomerService.update_customer`. -/
def updateCustomer (customerId : UUID) (dto : CustomerUpdateDTO) : Service Unit := do
  let s ← get
  if (s.customers[customerId]?).isNone then
    throw (.entityNotFound "Customer" (UUID.str customerId))
  set (s.modifyCustomer customerId (applyUpdate dto))

end CustomerService

/-- `create_customer_consent`. -/
def createCustomerConsent (env : Env) (customerId : UUID) (consentType : ConsentType)
    (status : ConsentStatus) (merchantId : Option String) (expiresAt : Option Datetime)
    (source : String) : Service UUID := do
  let s ← get
  insertConsent
    { id := s.consents.length, customerId, consentType, status, merchantId
      grantedAt := env.now.naive, revokedAt := none, expiresAt := expiresAt.map Datetime.naive
      source }

/-- `revoke_customer_consent`. -/
def revokeCustomerConsent (env : Env) (consentId : UUID) : Service Unit := do
  let s ← get
  if (s.consents[consentId]?).isNone then
    throw (.entityNotFound "Consent record" (UUID.str consentId))
  set (s.modifyConsent consentId fun c =>
    { c with status := .REVOKED, revokedAt := some env.now.naive })

namespace TransactionService

/-- `TransactionCreateDTO`. -/
structure TransactionCreateDTO where
  customerId : UUID
  provider : String
  externalTransactionId : String
  amountMinor : ℕ
  currency : Currency
  status : TransactionStatus
  failureCode : Option String
  failureMessageSafe : Option String
  occurredAt : Option Datetime
  metadata : Dict

/-- `TransactionMapper.to_entity`. -/
def toEntity (env : Env) (dto : TransactionCreateDTO) : Transaction :=
  { customerId := dto.customerId
    provider := dto.provider
    externalTransactionId := dto.externalTransactionId
    amountMinor := dto.amountMinor
    currency := dto.currency
    status := dto.status
    failureCode := dto.failureCode
    failureMessageSafe := dto.failureMessageSafe
    occurredAt := (dto.occurredAt.getD env.now).naive
    metadataJson := dto.metadata }

/-- `TransactionService.record_transaction`. -/
def recordTransaction (env : Env) (dto : TransactionCreateDTO) : Service UUID := do
  let s ← get
  if (s.customers[dto.customerId]?).isNone then
    throw (.entityNotFound "Customer" (UUID.str dto.customerId))
  if (s.transactionByExternalId dto.provider dto.externalTransactionId).isSome then
    throw (.duplicateEntity "Transaction" (dto.provider ++ ":" ++ dto.externalTransactionId))
  insertTransaction (toEntity env dto)

end TransactionService

end RevenueRescue
